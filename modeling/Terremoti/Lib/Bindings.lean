import Std.Data.TreeMap.Lemmas

/-!
# The last of several bindings

`last l k` is the value a list of pairs binds `k` to when a later pair overrides an earlier one. A
map filled by inserting the pairs in order binds what the list does, and otherwise what it bound
before (`getElem?_insertAll`). The list of a map's own pairs binds what the map does (`last_toList`).
-/

namespace Bindings

variable {α β : Type}

def last [DecidableEq α] : List (α × β) → α → Option β
  | [], _ => none
  | (k', v) :: l, k => (last l k).or (if k' = k then some v else none)

theorem mem_of_last [DecidableEq α] {l : List (α × β)} {k : α} {v : β} (h : last l k = some v) :
    (k, v) ∈ l := by
  induction l with
  | nil => cases h
  | cons p l ih =>
    obtain ⟨k', v'⟩ := p
    rw [last, Option.or_eq_some_iff] at h
    rcases h with h | ⟨-, h⟩
    · exact List.mem_cons_of_mem _ (ih h)
    · split at h
      · rename_i hk
        cases h
        exact hk ▸ List.mem_cons_self ..
      · cases h

theorem last_eq_some_iff [DecidableEq α] {l : List (α × β)} {k : α} {v : β}
    (h : l.Pairwise fun p q => p.1 ≠ q.1) : last l k = some v ↔ (k, v) ∈ l := by
  induction l generalizing v with
  | nil => exact iff_of_false nofun List.not_mem_nil
  | cons p l ih =>
    obtain ⟨k', v'⟩ := p
    obtain ⟨hhead, htail⟩ := List.pairwise_cons.1 h
    rw [last, List.mem_cons, Option.or_eq_some_iff, ih htail]
    constructor
    · rintro (hmem | ⟨-, hv⟩)
      · exact .inr hmem
      · split at hv
        · rename_i hk
          exact .inl (Prod.ext hk.symm (Option.some.inj hv).symm)
        · cases hv
    · rintro (heq | hmem)
      · cases heq
        refine .inr ⟨?_, if_pos rfl⟩
        rw [Option.eq_none_iff_forall_ne_some]
        intro v₁ hv₁
        exact hhead _ ((ih htail).1 hv₁) rfl
      · exact .inl hmem

section
variable [Ord α]

def insertAll (m : Std.TreeMap α β) (l : List (α × β)) : Std.TreeMap α β :=
  l.foldl (fun m p => m.insert p.1 p.2) m

theorem insertAll_cons (m : Std.TreeMap α β) (p : α × β) (l : List (α × β)) :
    insertAll m (p :: l) = insertAll (m.insert p.1 p.2) l := rfl

theorem getElem?_insertAll [DecidableEq α] [Std.TransOrd α] [Std.LawfulEqOrd α]
    (m : Std.TreeMap α β) (l : List (α × β)) (k : α) :
    (insertAll m l)[k]? = (last l k).or m[k]? := by
  induction l generalizing m with
  | nil => rfl
  | cons p l ih =>
    rw [insertAll_cons, ih, last, Option.or_assoc, Std.TreeMap.getElem?_insert]
    by_cases h : p.1 = k
    · rw [if_pos (Std.compare_eq_iff_eq.2 h), if_pos h]
      rfl
    · rw [if_neg (mt Std.compare_eq_iff_eq.1 h), if_neg h]
      rfl

theorem last_toList [DecidableEq α] [Std.TransOrd α] [Std.LawfulEqOrd α] (m : Std.TreeMap α β)
    (k : α) : last m.toList k = m[k]? := by
  have hdistinct : m.toList.Pairwise fun p q => p.1 ≠ q.1 :=
    m.distinct_keys_toList.imp fun hne heq => hne (Std.compare_eq_iff_eq.2 heq)
  refine Option.ext fun v => ?_
  rw [last_eq_some_iff hdistinct, Std.TreeMap.mem_toList_iff_getElem?_eq_some]

end
end Bindings
