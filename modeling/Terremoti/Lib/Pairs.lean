import Mathlib.Data.List.TakeWhile

/-!
# Texts of pairs

A pair is written as its key, a separator and its value, a text as pairs with another separator
between them. Split at every separator of the one kind, and each piece at the first of the other, a
text gives its pairs back (`parse_splitOn_text`) if the keys have neither and the values not the
outer one. A loop that writes the outer separator behind every pair writes one too many
(`flatMap_eq_text`).
-/

namespace Pairs

variable {α : Type} {sep mid : α}

def render (mid : α) (p : List α × List α) : List α := p.1 ++ mid :: p.2

def text (sep mid : α) (ps : List (List α × List α)) : List α :=
  [sep].intercalate (ps.map (render mid))

theorem sep_notMem_render {p : List α × List α} (hne : sep ≠ mid) (hkey : sep ∉ p.1)
    (hvalue : sep ∉ p.2) : sep ∉ render mid p := by
  rw [render, List.mem_append, List.mem_cons]
  rintro (h | h | h)
  · exact hkey h
  · exact hne h
  · exact hvalue h

theorem flatMap_eq_text {ps : List (List α × List α)} (hps : ps ≠ []) :
    ps.flatMap (fun p => render mid p ++ [sep]) = text sep mid ps ++ [sep] := by
  induction ps with
  | nil => exact absurd rfl hps
  | cons p ps ih =>
    cases ps with
    | nil => simp [text]
    | cons q ps =>
      rw [List.flatMap_cons, ih (List.cons_ne_nil q ps)]
      simp [text, List.intercalate]

theorem length_text_le {ps : List (List α × List α)} {n : ℕ}
    (h : ∀ p ∈ ps, p.1.length + p.2.length + 2 ≤ n) : (text sep mid ps).length ≤ ps.length * n := by
  by_cases hps : ps = []
  · rw [hps]
    exact Nat.zero_le _
  · have hflat : ps.flatMap (fun p => render mid p ++ [sep]) = text sep mid ps ++ [sep] :=
      flatMap_eq_text hps
    have hlength : (ps.flatMap fun p => render mid p ++ [sep]).length ≤ ps.length * n := by
      clear hps hflat
      induction ps with
      | nil => exact Nat.zero_le _
      | cons p ps ih =>
        obtain ⟨hp, hps⟩ := List.forall_mem_cons.1 h
        have hrest := ih hps
        rw [List.flatMap_cons, List.length_append, List.length_append, render, List.length_append,
          List.length_cons, List.length_singleton, List.length_cons, Nat.succ_mul]
        omega
    rw [hflat, List.length_append] at hlength
    exact (Nat.le_add_right _ _).trans hlength

theorem notMem_text {a : α} {ps : List (List α × List α)} (hsep : a ≠ sep) (hmid : a ≠ mid)
    (h : ∀ p ∈ ps, a ∉ p.1 ∧ a ∉ p.2) : a ∉ text sep mid ps := by
  by_cases hps : ps = []
  · rw [hps]
    exact List.not_mem_nil
  · intro hmem
    have hflat : a ∈ ps.flatMap fun p => render mid p ++ [sep] := by
      rw [flatMap_eq_text hps]
      exact List.mem_append_left _ hmem
    obtain ⟨p, hp, ha⟩ := List.mem_flatMap.1 hflat
    rcases List.mem_append.1 ha with ha | ha
    · exact sep_notMem_render hmid (h p hp).1 (h p hp).2 ha
    · exact hsep (List.mem_singleton.1 ha)

variable [DecidableEq α]

/-- The text before the first `mid` and the text behind it, if there is one. -/
def parse (mid : α) (s : List α) : Option (List α × List α) :=
  if mid ∈ s then some (s.takeWhile (· != mid), (s.dropWhile (· != mid)).tail) else none

theorem parse_of_notMem {s : List α} (h : mid ∉ s) : parse mid s = none := if_neg h

theorem parse_render {p : List α × List α} (h : mid ∉ p.1) : parse mid (render mid p) = some p := by
  have hpos : ∀ c ∈ p.1, (c != mid) = true := fun c hc => by
    simpa using ne_of_mem_of_not_mem hc h
  rw [parse, render, if_pos (List.mem_append_right _ List.mem_cons_self),
    List.takeWhile_append_of_pos hpos, List.dropWhile_append_of_pos hpos,
    List.takeWhile_cons_of_neg (by simp), List.dropWhile_cons_of_neg (by simp), List.append_nil]
  rfl

theorem splitOn_text {ps : List (List α × List α)} (hne : sep ≠ mid) (hps : ps ≠ [])
    (hkey : ∀ p ∈ ps, sep ∉ p.1) (hvalue : ∀ p ∈ ps, sep ∉ p.2) :
    (text sep mid ps).splitOn sep = ps.map (render mid) := by
  refine List.splitOn_intercalate sep (fun l hl => ?_) (by simpa using hps)
  obtain ⟨p, hp, rfl⟩ := List.mem_map.1 hl
  exact sep_notMem_render hne (hkey p hp) (hvalue p hp)

theorem nil_notMem_splitOn_text {ps : List (List α × List α)} (hne : sep ≠ mid) (hps : ps ≠ [])
    (hkey : ∀ p ∈ ps, sep ∉ p.1) (hvalue : ∀ p ∈ ps, sep ∉ p.2) :
    [] ∉ (text sep mid ps).splitOn sep := by
  rw [splitOn_text hne hps hkey hvalue, List.mem_map]
  rintro ⟨p, -, hp⟩
  exact absurd hp (List.append_ne_nil_of_right_ne_nil _ (List.cons_ne_nil _ _))

/-- A text is not empty and neither begins nor ends with the separator: there would be an empty
piece. -/
theorem text_ends {ps : List (List α × List α)} (hne : sep ≠ mid) (hps : ps ≠ [])
    (hkey : ∀ p ∈ ps, sep ∉ p.1) (hvalue : ∀ p ∈ ps, sep ∉ p.2) :
    text sep mid ps ≠ [] ∧ (text sep mid ps).head? ≠ some sep ∧
      (text sep mid ps).getLast? ≠ some sep := by
  have hpiece := nil_notMem_splitOn_text hne hps hkey hvalue
  refine ⟨fun hnil => hpiece ?_, fun hhead => ?_, fun hlast => ?_⟩
  · rw [hnil, List.splitOn_nil]
    exact List.mem_singleton_self _
  · obtain ⟨t, ht⟩ := List.head?_eq_some_iff.1 hhead
    refine hpiece ?_
    rw [ht, ← List.nil_append (sep :: t), List.splitOn_append_cons_self]
    exact List.mem_append_left _ (List.mem_singleton_self _)
  · obtain ⟨t, ht⟩ := List.getLast?_eq_some_iff.1 hlast
    refine hpiece ?_
    rw [ht, List.splitOn_append_cons_self]
    exact List.mem_append_right _ (List.mem_singleton_self _)

theorem parse_splitOn_text {ps : List (List α × List α)} (hne : sep ≠ mid) (hps : ps ≠ [])
    (hmid : ∀ p ∈ ps, mid ∉ p.1) (hkey : ∀ p ∈ ps, sep ∉ p.1) (hvalue : ∀ p ∈ ps, sep ∉ p.2) :
    ((text sep mid ps).splitOn sep).map (parse mid) = ps.map some := by
  rw [splitOn_text hne hps hkey hvalue, List.map_map]
  exact List.map_congr_left fun p hp => parse_render (hmid p hp)

end Pairs
