import FlatQuery.Text.Basic
import FlatQuery.Text.Emoji
import FlatQuery.Text.Ligature

namespace FlatQuery

inductive Style
  | text
  | emoji
  | wide
  deriving DecidableEq, Repr

def Style.ofSelector? (c : Char) : Option Style :=
  if c = '\ufe0e' then some text
  else if c = '\ufe0f' then some emoji
  else if c = '\ufe01' then some wide
  else none

-- What the measured part of a text begins with, as far as the character before may combine with it.
-- A letter is `joined` once a joiner precedes it.
inductive Opening
  | plain
  | lineFeed
  -- Letters of ligatures.
  | alef
  | hebrewLamed (joined : Bool)
  | bugineseYa (joined : Bool)
  | bugineseIYa
  | paired (joined : Bool)
  | pairedAfterJoiner
  | secondTone
  | turkicI (joined : Bool)
  | subscript
  | vowelE
  | vowelAI
  -- Pictures.
  | skinTone
  | flagLetter (more : Bool)
  | picture
  | joinedPicture
  | joinedKeycap
  | joinedHalfFlag
  | joinedFlags
  | joinedFlagsAndHalf
  | joinedTags (letters digits : Nat)
  deriving DecidableEq, Repr

-- The styles that selectors want for the character before them.
structure Styles where
  emoji : Bool := false
  text : Bool := false
  wide : Bool := false
  deriving DecidableEq, Repr

namespace Styles

def insert (w : Styles) : Style → Styles
  | .emoji => { w with emoji := true }
  | .text => { w with text := true }
  | .wide => { w with wide := true }

-- Once a character has not taken the style: the wide one waits until the text one is gone.
def next (w : Styles) : Styles :=
  if w.text then { w with text := false } else { w with wide := false }

end Styles

structure Front where
  opening : Opening := .plain
  styles : Styles := {}
  deriving DecidableEq, Repr

namespace Opening

def of (c : Char) : Opening :=
  if c = Ligature.hebrewLamed then hebrewLamed false
  else if Ligature.isAlef c then alef
  else if Ligature.isSubscript c then subscript
  else if c = Ligature.bugineseYa then bugineseYa false
  else if Ligature.isPaired c then paired false
  else if Ligature.isSecondTone c then secondTone
  else if c = Ligature.turkicI then turkicI false
  else if c = Ligature.vowelE then vowelE
  else if c = Ligature.vowelAI then vowelAI
  else if Emoji.isFlagLetter c then flagLetter false
  else if Emoji.isSkinTone c then skinTone
  else if Emoji.isPicture c then picture
  else plain

-- Letters that invisible marks and joiners before them do not hide.
def seesThrough : Opening → Bool
  | hebrewLamed _ | bugineseYa _ | bugineseIYa | paired _ | pairedAfterJoiner | secondTone
  | turkicI _ | subscript => true
  | _ => false

def isLetter (o : Opening) : Bool :=
  o = alef || o.seesThrough

def join : Opening → Opening
  | hebrewLamed _ => hebrewLamed true
  | bugineseYa _ => bugineseYa true
  | paired _ => paired true
  | turkicI _ => turkicI true
  | o => o

-- What a character adds where a letter follows that it is drawn with, and the new opening.
def ligate? (o : Opening) (c : Char) : Option (Int × Opening) :=
  match o with
  | alef =>
    if Ligature.isLam c then some (0, plain)
    else if Ligature.isBetweenLamAndAlef c then some (0, alef)
    else none
  | hebrewLamed true => if c = Ligature.hebrewAlef then some (0, plain) else none
  | subscript => if c = Ligature.subscriptSign then some (-1, plain) else none
  | bugineseYa true => if c = Ligature.bugineseVowelI then some (0, bugineseIYa) else none
  | bugineseIYa => if c = Ligature.bugineseA then some (0, plain) else none
  | paired joined =>
    if c = consonantJoiner then some (1, pairedAfterJoiner)
    else if joined && Ligature.isPaired c then some (0, plain)
    else none
  | pairedAfterJoiner => if Ligature.isPaired c then some (-1, plain) else none
  | secondTone => if Ligature.isFirstTone c then some (0, plain) else none
  | turkicI true => if c = Ligature.turkicC then some (0, plain) else none
  | vowelE =>
    if c = Ligature.vowelE then some (0, vowelAI)
    else if c = Ligature.vowelAA || c = Ligature.vowelO then some (0, plain)
    else none
  | vowelAI => if c = Ligature.vowelAA then some (0, plain) else none
  | _ => none

-- The tags of a flag are read from their end: up to six letters, or up to four of them after three
-- digits.
def takeTag? (letters digits : Nat) (c : Char) : Option Opening :=
  if Emoji.isTagLetter c && digits = 0 && letters < 6 then some (joinedTags (letters + 1) 0)
  else if Emoji.isTagDigit c && (digits != 0 || letters ≤ 4) && digits < 3 then
    some (joinedTags letters (digits + 1))
  else if c = Emoji.taggedFlag && (digits = 3 || digits = 0 && 3 ≤ letters) then some picture
  else none

def depict? (o : Opening) (c : Char) : Option (Int × Opening) :=
  match o with
  | skinTone =>
    if Emoji.hasSkin c then some (0, picture)
    else if c = '\u200d' then some (0, joinedPicture)
    else none
  | flagLetter more =>
    if Emoji.isFlagLetter c then some (1, flagLetter true)
    else if more && c = '\u200d' then some (0, joinedPicture)
    else none
  | picture => if c = '\u200d' then some (0, joinedPicture) else none
  | joinedPicture =>
    if c = Emoji.keycap then some (0, joinedKeycap)
    else if Emoji.isFlagLetter c then some (1, joinedHalfFlag)
    else if Emoji.isSkinTone c then some (0, skinTone)
    else if c = Emoji.endTag then some (0, joinedTags 0 0)
    else if Emoji.isPicture c then some (0, picture)
    else none
  | joinedHalfFlag => if Emoji.isFlagLetter c then some (-1, joinedFlags) else none
  | joinedFlags =>
    if Emoji.isFlagLetter c then some (3, joinedFlagsAndHalf)
    else if c = '\u200d' then some (0, joinedPicture)
    else none
  | joinedFlagsAndHalf =>
    if Emoji.isFlagLetter c then some (-1, joinedFlags)
    else if c = '\u200d' then some (0, joinedPicture)
    else none
  | joinedTags letters digits => (takeTag? letters digits c).map ((0, ·))
  | _ => none

end Opening

namespace Front

def isJoined (f : Front) : Bool :=
  f.opening = .joinedPicture || f.opening = .joinedKeycap

-- A selector before a front. It hides a picture that no joiner joins to the next one.
def select (f : Front) (s : Style) : Front :=
  if f.opening.isLetter then { f with styles := f.styles.insert s }
  else if s = .emoji && f.isJoined then { f with styles := ({} : Styles).insert s }
  else { styles := ({} : Styles).insert s }

def withoutEmoji (f : Front) : Front :=
  if !f.styles.emoji then f
  else if f.opening.isLetter then { f with styles := { f.styles with emoji := false } }
  else {}

-- A control or ASCII character, or a space that does not break. A line feed and the return before
-- it take one column.
def prependPlain (o : Opening) (c : Char) : Int × Front :=
  if c = '\n' then (1, { opening := .lineFeed })
  else if c = '\r' && o = .lineFeed then (0, {})
  else (1, {})

def restyle? (f : Front) (c : Char) : Option Int :=
  if f.styles.text then
    if Emoji.hasTextStyle c then some 1 else none
  else if f.styles.wide && c.inRanges [(0x2018, 0x2019), (0x201C, 0x201D)] then some 2
  else none

-- A character that keeps its style. Letters and pictures combine only where no selector waits.
def combine (f : Front) (c : Char) : Int × Front :=
  if f.opening.seesThrough && c = '\u200d' then (0, { f with opening := f.opening.join })
  else if f.opening.seesThrough && isInvisibleMark c then (0, f)
  else
    let combined := if f.styles = {} then f.opening.ligate? c <|> f.opening.depict? c else none
    match combined with
    | some (n, o) => (n, { opening := o })
    | none => (columnsOf c, { opening := .of c })

def prepend (f : Front) (c : Char) : Int × Front :=
  if f.styles.emoji && Emoji.hasEmojiStyle c then
    (if f.isJoined then 0 else 2, { opening := .picture })
  else
    let f := f.withoutEmoji
    if c.toNat ≤ 0xA0 then prependPlain f.opening c
    else match Style.ofSelector? c with
      | some s => (0, f.select s)
      | none => match f.restyle? c with
        | some n => (n, {})
        | none => { f with styles := f.styles.next }.combine c

end Front

namespace Text

-- A text is measured from its end, since what follows a character decides what becomes of it.
def measure (t : Text) : Int × Front :=
  t.foldr (fun c (width, front) =>
    let (n, front) := front.prepend c
    (width + n, front)) (0, {})

def columns (t : Text) : Nat :=
  t.measure.1.toNat

end Text
end FlatQuery
