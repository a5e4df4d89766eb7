import FlatQuery.Proofs.Pattern.Keywords

namespace FlatQuery

-- The keywords that end what stands before them.
def Keyword.clauses : List Keyword :=
  [select, source, filter, groupBy, orderBy, having]

-- A keyword as it is written, with what follows it.
structure Passage where
  keyword : Keyword
  spelled : Text
  body    : Text
  spells  : Spells keyword.letters spelled
  plain   : ∀ k ∈ Keyword.clauses, ¬Mentions k.opening body
  tight   : body.Tight

namespace Passage

variable {k : Keyword} {p : Passage} {ps ms qs : List Passage} {t : Text}

def text (p : Passage) : Text :=
  p.spelled ++ ' ' :: p.body

-- What passages contribute to the text that stands before another one.
def lead (ps : List Passage) : Text :=
  ps.flatMap fun p => p.text ++ [' ']

-- What they contribute to the text that stands after another one.
def trail (ps : List Passage) : Text :=
  ps.flatMap fun p => ' ' :: p.text

@[simp]
theorem lead_nil : lead [] = [] :=
  rfl

@[simp]
theorem trail_nil : trail [] = [] :=
  rfl

theorem lead_cons : lead (p :: ps) = p.text ++ ' ' :: lead ps := by
  simp [lead]

theorem trail_cons : trail (p :: ps) = ' ' :: p.text ++ trail ps := by
  simp [trail]

theorem isBlank_of_trail : ∀ c ∈ (trail qs).head?, isBlank c := by
  intro c h
  cases qs
  case nil => contradiction
  case cons q qs =>
    obtain rfl : ' ' = c := by simpa [trail_cons] using h
    exact isBlank_space

theorem lead_append : lead (ps ++ qs) = lead ps ++ lead qs := by
  simp [lead]

theorem join_cons : Text.join [' '] ((p :: qs).map text) = p.text ++ trail qs := by
  induction qs generalizing p
  case nil => simp
  case cons q qs hi =>
    rw [List.map_cons, List.map_cons, Text.join_cons_cons, ← List.map_cons, hi, trail_cons]
    simp

theorem join_append :
    Text.join [' '] ((ps ++ p :: qs).map text) = lead ps ++ (p.text ++ trail qs) := by
  induction ps
  case nil => exact join_cons
  case cons p' ps hi =>
    obtain ⟨r, rs, hr⟩ := List.exists_cons_of_ne_nil (l := ps ++ p :: qs) (by simp)
    rw [hr] at hi
    rw [List.cons_append, hr, List.map_cons, List.map_cons, Text.join_cons_cons, ← List.map_cons, hi,
      lead_cons]
    simp

theorem spans_body (hk : k ∈ Keyword.clauses) : k.spans p.body = [] :=
  Keyword.spans_eq_nil_iff.mpr fun h => p.plain k hk (Keyword.mentions_opening h)

theorem spans_text (hk : k ∈ Keyword.clauses) : k.spans p.text = k.spans p.spelled := by
  rw [text, Keyword.spans_append_space (Keyword.clear_of_spells p.spells), spans_body hk]
  simp

-- Another passage may follow without touching this one.
theorem spans_body_append (hk : k ∈ Keyword.clauses) :
    k.spans (p.body ++ ' ' :: t) = (k.spans t).map (·.shift (p.body.length + 1)) := by
  rw [Keyword.spans_append_space (Keyword.clear_of_not_mentions (p.plain k hk)), spans_body hk]
  rfl

theorem spans_text_append (hk : k ∈ Keyword.clauses) :
    k.spans (p.text ++ ' ' :: t) =
      k.spans p.spelled ++ (k.spans t).map (·.shift (p.text.length + 1)) := by
  have ha : p.text ++ ' ' :: t = p.spelled ++ ' ' :: (p.body ++ ' ' :: t) := by simp [text]
  rw [ha, Keyword.spans_append_space (Keyword.clear_of_spells p.spells), spans_body_append hk,
    List.map_map, Span.shift_shift]
  congr 3
  simp [text]
  omega

section Absent

variable (hk : k ∈ Keyword.clauses)
include hk

theorem spans_lead (h : ∀ p ∈ ps, p.keyword ≠ k) :
    k.spans (lead ps ++ t) = (k.spans t).map (·.shift (lead ps).length) := by
  induction ps
  case nil => simp
  case cons p ps hi =>
    have ⟨hp, hps⟩ := List.forall_mem_cons.mp h
    rw [lead_cons, List.append_assoc, List.cons_append, spans_text_append hk, hi hps,
      Keyword.spans_spelled_of_ne p.spells hp.symm, List.nil_append, List.map_map, Span.shift_shift]
    congr 2
    simp
    omega

theorem spans_trail (h : ∀ q ∈ qs, q.keyword ≠ k) :
    k.spans (p.text ++ trail qs) = k.spans p.spelled := by
  induction qs generalizing p
  case nil => rw [trail_nil, List.append_nil, spans_text hk]
  case cons q qs hi =>
    have ⟨hq, hqs⟩ := List.forall_mem_cons.mp h
    rw [trail_cons, List.cons_append, spans_text_append hk, hi hqs,
      Keyword.spans_spelled_of_ne q.spells hq.symm]
    simp

theorem spans_body_trail (h : ∀ q ∈ qs, q.keyword ≠ k) : k.spans (p.body ++ trail qs) = [] := by
  cases qs
  case nil => rw [trail_nil, List.append_nil, spans_body hk]
  case cons q qs =>
    have ⟨hq, hqs⟩ := List.forall_mem_cons.mp h
    rw [trail_cons, List.cons_append, spans_body_append hk, spans_trail hk hqs,
      Keyword.spans_spelled_of_ne q.spells hq.symm]
    rfl

theorem spans_eq_nil (hp : p.keyword ≠ k) (hqs : ∀ q ∈ qs, q.keyword ≠ k) :
    k.spans (p.text ++ trail qs) = [] := by
  rw [spans_trail hk hqs, Keyword.spans_spelled_of_ne p.spells hp.symm]

-- A passage after any text is found behind it.
theorem spans_append_trail (hx : ∀ u, Clear k.letters t (' ' :: u)) (h : ∀ q ∈ qs, q.keyword ≠ k) :
    k.spans (t ++ trail (p :: qs)) =
      k.spans t ++ (k.spans p.spelled).map (·.shift (t.length + 1)) := by
  rw [trail_cons, List.cons_append, Keyword.spans_append_space (hx _), spans_trail hk h]

end Absent

-- The keyword of the only passage that has it is found at its beginning.
theorem spans_unique (hk : p.keyword ∈ Keyword.clauses) (hps : ∀ q ∈ ps, q.keyword ≠ p.keyword)
    (hqs : ∀ q ∈ qs, q.keyword ≠ p.keyword) :
    p.keyword.spans (lead ps ++ (p.text ++ trail qs)) =
      [⟨(lead ps).length, (lead ps).length + p.spelled.length⟩] := by
  rw [spans_lead hk hps, spans_trail hk hqs, Keyword.spans_spelled p.spells]
  rfl

-- Where a keyword has one passage at most, this passage tells its places.
theorem spans_join (hk : k ∈ Keyword.clauses) (hn : ps ≠ []) (hl : ms.length ≤ 1)
    (hm : ∀ q ∈ ms, q.keyword = k) (hps : ∀ q ∈ ps, q.keyword ≠ k) (hqs : ∀ q ∈ qs, q.keyword ≠ k) :
    k.spans (Text.join [' '] ((ps ++ ms ++ qs).map text)) =
      ms.map fun q => ⟨(lead ps).length, (lead ps).length + q.spelled.length⟩ := by
  obtain - | ⟨m, - | _⟩ := ms
  case nil =>
    obtain ⟨p, ps, rfl⟩ := List.exists_cons_of_ne_nil hn
    have ⟨hp, hps⟩ := List.forall_mem_cons.mp hps
    have hr : ∀ q ∈ ps ++ qs, q.keyword ≠ k := List.forall_mem_append.mpr ⟨hps, hqs⟩
    rw [List.append_nil, List.cons_append, join_cons, spans_eq_nil hk hp hr]
    rfl
  case cons.nil =>
    obtain rfl := hm m (by simp)
    rw [List.append_assoc, List.singleton_append, join_append, spans_unique hk hps hqs]
    rfl
  case cons.cons => simp at hl

theorem drop_lead : (lead ps ++ (p.text ++ t)).drop ((lead ps).length + p.spelled.length) =
    [' '] ++ (p.body ++ t) := by
  simp [text]

section Tight

theorem tight_text (p : Passage) : p.text.Tight := by
  simpa [text] using (p.spells.tight p.keyword.framed).append p.tight [' ']

-- What begins a text of passages need not be a passage.
theorem tight_append_trail (ht : t.Tight) : (t ++ trail qs).Tight := by
  induction qs generalizing t
  case nil => simpa using ht
  case cons q qs hi =>
    have hq := hi (ht.append q.tight (' ' :: q.spelled ++ [' ']))
    simpa [trail_cons, text] using hq

end Tight

end Passage
end FlatQuery
