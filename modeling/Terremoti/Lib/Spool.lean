import Mathlib.Data.List.Basic
import Mathlib.Logic.Function.Basic

/-!
# Spool directories

One process writes files into a directory, another one sends them and removes what has been
accepted. Nothing keeps a file from being sent while it is written. `kept_iff` says what becomes of a
file that has been written whole, under a name of its own: unless less of it was accepted, it is in
the directory or has been accepted, in any order of the steps.
-/

namespace Spool

variable {ι α : Type}

/-- The directory, the file being written and all that will be in it, what has been read of the file
being sent, and, as a record, the files written to their end and what has been accepted. -/
structure State (ι α : Type) where
  files : ι → Option (List α)
  writing : Option (ι × List α) := none
  sending : Option (ι × List α) := none
  stored : List (ι × List α) := []
  accepted : List (ι × List α) := []

def empty : State ι α := { files := fun _ => none }

/-- The writer opens a file, has the first items of it reach the disk and closes it; the sender reads
one and gets its reply; or both processes end. -/
inductive Op (ι α : Type)
  | fopen (name : ι) (text : List α)
  | fflush (n : ℕ)
  | fclose
  | send (name : ι)
  | reply (accepted : Bool)
  | restart

def Op.Opens (name : ι) (o : Op ι α) : Prop := ∃ text, o = .fopen name text

/-! ### A name -/

/-- Nothing has happened under the name. -/
structure Unused (name : ι) (s : State ι α) : Prop where
  files : s.files name = none
  writing : ∀ c, s.writing ≠ some (name, c)
  sending : ∀ c, s.sending ≠ some (name, c)
  stored : ∀ c, (name, c) ∉ s.stored
  accepted : ∀ c, (name, c) ∉ s.accepted

/-- The name is that of `text`: it has been removed with one upload accepted, or is there, whole once
it has been stored, and none has been accepted. -/
structure Owned (name : ι) (text : List α) (s : State ι α) : Prop where
  writing : ∀ c, s.writing = some (name, c) → c = text ∧ ∀ c', (name, c') ∉ s.stored
  sending : ∀ c, s.sending = some (name, c) → s.files name ≠ none
  stored : ∀ c, (name, c) ∈ s.stored → c = text
  there : ∀ c, s.files name = some c →
    (∀ c', (name, c') ∉ s.accepted) ∧ ((name, text) ∈ s.stored → c = text)
  removed : s.files name = none → ∃ c, ∀ c', (name, c') ∈ s.accepted ↔ c' = c

/-- Under the name no more goes on than before. -/
structure Same (name : ι) (s s' : State ι α) : Prop where
  files : s'.files name = s.files name
  writing : ∀ c, s'.writing = some (name, c) → s.writing = some (name, c)
  sending : ∀ c, s'.sending = some (name, c) → s.sending = some (name, c)
  stored : ∀ c, (name, c) ∈ s'.stored ↔ (name, c) ∈ s.stored
  accepted : ∀ c, (name, c) ∈ s'.accepted ↔ (name, c) ∈ s.accepted

variable {name : ι} {text : List α} {s s' : State ι α}

theorem Same.refl (s : State ι α) : Same name s s :=
  ⟨rfl, fun _ h => h, fun _ h => h, fun _ => Iff.rfl, fun _ => Iff.rfl⟩

theorem Unused.congr (h : Unused name s) (hs : Same name s s') : Unused name s' where
  files := hs.files.trans h.files
  writing c hc := h.writing c (hs.writing c hc)
  sending c hc := h.sending c (hs.sending c hc)
  stored c hc := h.stored c ((hs.stored c).1 hc)
  accepted c hc := h.accepted c ((hs.accepted c).1 hc)

theorem Owned.congr (h : Owned name text s) (hs : Same name s s') : Owned name text s' where
  writing c hc :=
    ⟨(h.writing c (hs.writing c hc)).1, fun c' hc' =>
      (h.writing c (hs.writing c hc)).2 c' ((hs.stored c').1 hc')⟩
  sending c hc := by
    rw [hs.files]
    exact h.sending c (hs.sending c hc)
  stored c hc := h.stored c ((hs.stored c).1 hc)
  there c hc := by
    rw [hs.files] at hc
    exact ⟨fun c' hc' => (h.there c hc).1 c' ((hs.accepted c').1 hc'),
      fun hstored => (h.there c hc).2 ((hs.stored text).1 hstored)⟩
  removed hnone := by
    rw [hs.files] at hnone
    obtain ⟨c, hc⟩ := h.removed hnone
    exact ⟨c, fun c' => (hs.accepted c').trans (hc c')⟩

/-! ### The steps -/

variable [DecidableEq ι]

/-- What is written to a file that has been removed is lost. -/
def step (s : State ι α) : Op ι α → State ι α
  | .fopen name text =>
    { s with files := Function.update s.files name (some []), writing := some (name, text) }
  | .fflush n =>
    match s.writing with
    | some (name, text) =>
      { s with files := Function.update s.files name ((s.files name).map fun _ => text.take n) }
    | none => s
  | .fclose =>
    match s.writing with
    | some (name, text) =>
      { s with
        files := Function.update s.files name ((s.files name).map fun _ => text)
        writing := none
        stored := (name, text) :: s.stored }
    | none => s
  | .send name =>
    match s.sending, s.files name with
    | none, some content => { s with sending := some (name, content) }
    | _, _ => s
  | .reply accepted =>
    match s.sending with
    | some (name, content) =>
      if accepted then
        { s with
          files := Function.update s.files name none
          sending := none
          accepted := (name, content) :: s.accepted }
      else { s with sending := none }
    | none => s
  | .restart => { s with writing := none, sending := none }

def run (s : State ι α) (ops : List (Op ι α)) : State ι α := ops.foldl step s

/-- What a step does under a name whose file it does not open. -/
theorem step_cases (s : State ι α) {o : Op ι α} (ho : ¬ o.Opens name) :
    Same name s (step s o) ∨
    (∃ text n, s.writing = some (name, text) ∧ step s o =
      { s with files := Function.update s.files name ((s.files name).map fun _ => text.take n) }) ∨
    (∃ text, s.writing = some (name, text) ∧ step s o =
      { s with
        files := Function.update s.files name ((s.files name).map fun _ => text)
        writing := none
        stored := (name, text) :: s.stored }) ∨
    (∃ c, s.files name = some c ∧ step s o = { s with sending := some (name, c) }) ∨
    ∃ c, s.sending = some (name, c) ∧ step s o =
      { s with
        files := Function.update s.files name none
        sending := none
        accepted := (name, c) :: s.accepted } := by
  cases o with
  | fopen name' text =>
    have hne : name ≠ name' := fun heq => ho ⟨text, by rw [heq]⟩
    refine .inl ⟨Function.update_of_ne hne _ _, fun c hc => ?_, fun c hc => hc, fun c => Iff.rfl,
      fun c => Iff.rfl⟩
    exact absurd (Prod.mk.inj (Option.some.inj hc)).1.symm hne
  | fflush n =>
    rw [step]
    cases hwriting : s.writing with
    | none => exact .inl (Same.refl s)
    | some w =>
      obtain ⟨name', text⟩ := w
      by_cases hname : name = name'
      · subst hname
        exact .inr (.inl ⟨text, n, rfl, rfl⟩)
      · exact .inl ⟨Function.update_of_ne hname _ _, fun c hc => hwriting.trans hc, fun c hc => hc,
          fun c => Iff.rfl, fun c => Iff.rfl⟩
  | fclose =>
    rw [step]
    cases hwriting : s.writing with
    | none => exact .inl (Same.refl s)
    | some w =>
      obtain ⟨name', text⟩ := w
      by_cases hname : name = name'
      · subst hname
        exact .inr (.inr (.inl ⟨text, rfl, rfl⟩))
      · refine .inl ⟨Function.update_of_ne hname _ _, fun c hc => (by cases hc), fun c hc => hc,
          fun c => ?_, fun c => Iff.rfl⟩
        simp [hname]
  | send name' =>
    rw [step]
    split
    · rename_i content hsending hfile
      by_cases hname : name = name'
      · subst hname
        exact .inr (.inr (.inr (.inl ⟨content, hfile, rfl⟩)))
      · refine .inl ⟨rfl, fun c hc => hc, fun c hc => ?_, fun c => Iff.rfl, fun c => Iff.rfl⟩
        exact absurd (Prod.mk.inj (Option.some.inj hc)).1.symm hname
    · exact .inl (Same.refl s)
  | reply accepted =>
    rw [step]
    cases hsending : s.sending with
    | none => exact .inl (Same.refl s)
    | some u =>
      obtain ⟨name', content⟩ := u
      cases accepted with
      | false =>
        exact .inl ⟨rfl, fun c hc => hc, fun c hc => (by cases hc), fun c => Iff.rfl,
          fun c => Iff.rfl⟩
      | true =>
        by_cases hname : name = name'
        · subst hname
          exact .inr (.inr (.inr (.inr ⟨content, rfl, rfl⟩)))
        · refine .inl ⟨Function.update_of_ne hname _ _, fun c hc => hc, fun c hc => (by cases hc),
            fun c => Iff.rfl, fun c => ?_⟩
          simp [hname]
  | restart =>
    exact .inl ⟨rfl, fun c hc => (by cases hc), fun c hc => (by cases hc), fun c => Iff.rfl,
      fun c => Iff.rfl⟩

theorem Unused.step (h : Unused name s) {o : Op ι α} (ho : ¬ o.Opens name) :
    Unused name (step s o) := by
  rcases step_cases s ho with hs | ⟨text, n, hwriting, -⟩ | ⟨text, hwriting, -⟩ | ⟨c, hfile, -⟩ |
    ⟨c, hsending, -⟩
  · exact h.congr hs
  · exact absurd hwriting (h.writing text)
  · exact absurd hwriting (h.writing text)
  · rw [h.files] at hfile
    cases hfile
  · exact absurd hsending (h.sending c)

theorem Unused.fopen (h : Unused name s) (text : List α) :
    Owned name text (Spool.step s (.fopen name text)) where
  writing c hc := ⟨(Prod.mk.inj (Option.some.inj hc)).2.symm, h.stored⟩
  sending c hc := absurd hc (h.sending c)
  stored c hc := absurd hc (h.stored c)
  there c _ := ⟨h.accepted, fun hstored => absurd hstored (h.stored text)⟩
  removed hnone := by
    have hfile : (Spool.step s (.fopen name text)).files name = some [] :=
      Function.update_self _ _ _
    rw [hfile] at hnone
    cases hnone

/-- More of a file, or less, as long as it is there. -/
theorem Owned.map (h : Owned name text s) (f : List α → List α) :
    let files := Function.update s.files name ((s.files name).map f)
    (∀ c, s.sending = some (name, c) → files name ≠ none) ∧
      (∀ c, files name = some c → (∀ c', (name, c') ∉ s.accepted) ∧ ∃ c₀, c = f c₀) ∧
      (files name = none → ∃ c, ∀ c', (name, c') ∈ s.accepted ↔ c' = c) := by
  intro files
  have hfiles : files name = (s.files name).map f := Function.update_self _ _ _
  rw [hfiles]
  refine ⟨fun c hc hnone => h.sending c hc (Option.map_eq_none_iff.1 hnone), fun c hc => ?_,
    fun hnone => h.removed (Option.map_eq_none_iff.1 hnone)⟩
  obtain ⟨c₀, hc₀, rfl⟩ := Option.map_eq_some_iff.1 hc
  exact ⟨(h.there c₀ hc₀).1, c₀, rfl⟩

theorem Owned.step (h : Owned name text s) {o : Op ι α} (ho : ¬ o.Opens name) :
    Owned name text (step s o) := by
  rcases step_cases s ho with hs | ⟨text', n, hwriting, hstep⟩ | ⟨text', hwriting, hstep⟩ |
    ⟨c, hfile, hstep⟩ | ⟨c, hsending, hstep⟩
  · exact h.congr hs
  all_goals rw [hstep]
  · obtain ⟨-, hnew⟩ := h.writing text' hwriting
    obtain ⟨hlinked, hthere, hremoved⟩ := h.map fun _ => text'.take n
    exact ⟨h.writing, hlinked, h.stored,
      fun c hc => ⟨(hthere c hc).1, fun hstored => absurd hstored (hnew _)⟩, hremoved⟩
  · obtain ⟨rfl, hnew⟩ := h.writing text' hwriting
    obtain ⟨hlinked, hthere, hremoved⟩ := h.map fun _ => text'
    refine ⟨fun c hc => (by cases hc), hlinked, fun c hc => ?_, fun c hc => ?_, hremoved⟩
    · rcases List.mem_cons.1 hc with hc | hc
      · exact (Prod.mk.inj hc).2
      · exact absurd hc (hnew c)
    · obtain ⟨hnone, c₀, hc₀⟩ := hthere c hc
      exact ⟨hnone, fun _ => hc₀⟩
  · refine ⟨h.writing, fun c hc => ?_, h.stored, h.there, h.removed⟩
    rw [hfile]
    exact Option.some_ne_none _
  · -- the file is there, so nothing of it has been accepted
    obtain ⟨c₀, hc₀⟩ := Option.ne_none_iff_exists'.1 (h.sending c hsending)
    have hfresh := (h.there c₀ hc₀).1
    have hfiles : Function.update s.files name none name = none := Function.update_self _ _ _
    refine ⟨h.writing, fun c hc => (by cases hc), h.stored, fun c' hc' => ?_,
      fun _ => ⟨c, fun c' => ?_⟩⟩
    · cases hfiles.symm.trans hc'
    · simp [hfresh]

/-! ### Runs -/

theorem run_induction {P : State ι α → Prop} {ops : List (Op ι α)} (hs : P s)
    (hstep : ∀ s, ∀ o ∈ ops, P s → P (step s o)) : P (run s ops) := by
  induction ops generalizing s with
  | nil => exact hs
  | cons o ops ih =>
    exact ih (hstep s o List.mem_cons_self hs) fun s o' ho' => hstep s o' (List.mem_cons_of_mem _ ho')

/-- A file written to its end under a name no other has is in the directory or has been accepted,
exactly if nothing else was accepted under its name. -/
theorem kept_iff {pre post : List (Op ι α)} (hpre : ∀ o ∈ pre, ¬ o.Opens name)
    (hpost : ∀ o ∈ post, ¬ o.Opens name) :
    let s := run empty (pre ++ .fopen name text :: post)
    (name, text) ∈ s.stored →
      ((s.files name = some text ∨ (name, text) ∈ s.accepted) ↔
        ∀ c, (name, c) ∈ s.accepted → c = text) := by
  intro s hstored
  have hunused : Unused name (run (empty : State ι α) pre) :=
    run_induction (P := Unused name)
      ⟨rfl, fun c hc => (by cases hc), fun c hc => (by cases hc), fun c => List.not_mem_nil,
        fun c => List.not_mem_nil⟩ fun s o ho h => h.step (hpre o ho)
  have howned : Owned name text s := by
    have hrun : s = run (step (run empty pre) (.fopen name text)) post := by
      rw [show s = _ from List.foldl_append, List.foldl_cons]
      rfl
    rw [hrun]
    exact run_induction (P := Owned name text) (hunused.fopen text) fun s o ho h =>
      h.step (hpost o ho)
  cases hfile : s.files name with
  | some c =>
    obtain ⟨hnone, hwhole⟩ := howned.there c hfile
    refine iff_of_true (.inl ?_) fun c' hc' => absurd hc' (hnone c')
    rw [hwhole hstored]
  | none =>
    obtain ⟨c, hc⟩ := howned.removed hfile
    constructor
    · rintro (h | h) c' hc'
      · cases h
      · exact ((hc c').1 hc').trans ((hc text).1 h).symm
    · intro h
      right
      rw [← h c ((hc c).2 rfl)]
      exact (hc c).2 rfl

end Spool
