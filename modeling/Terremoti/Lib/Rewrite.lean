import Mathlib.Data.List.Basic

/-!
# Rewriting a file in place

A file written through a buffered stream: opening it for writing truncates it, what is written stays
in the buffer, and closing the stream puts it into the file. `Leaves ops d file` says that the
program, stopped before or after one of the operations `ops`, leaves `file` on the disk; for one
rewrite that is the old file, an empty one or the new one (`leaves_rewrite`), and for operations one
after the other what either part leaves (`leaves_append`).
-/

namespace Rewrite

variable {α : Type}

inductive Op (α : Type)
  | fopen
  | fwrite (src : List α)
  | fclose

/-- The file, `none` if there is none, and what has been written to the open stream. -/
structure Disk (α : Type) where
  file : Option (List α)
  buffer : List α := []

namespace Disk

def step (d : Disk α) : Op α → Disk α
  | .fopen => { file := some [] }
  | .fwrite src => { d with buffer := d.buffer ++ src }
  | .fclose => { file := d.file.map (· ++ d.buffer) }

def run (d : Disk α) (ops : List (Op α)) : Disk α := ops.foldl step d

theorem run_append (d : Disk α) (ops ops' : List (Op α)) :
    d.run (ops ++ ops') = (d.run ops).run ops' := List.foldl_append

theorem run_fwrite (d : Disk α) (srcs : List (List α)) :
    d.run (srcs.map .fwrite) = { d with buffer := d.buffer ++ srcs.flatten } := by
  induction srcs generalizing d with
  | nil => simp [run]
  | cons src srcs ih =>
    rw [List.map_cons, run, List.foldl_cons]
    exact (ih _).trans (by simp [step])

end Disk

/-- The calls that put `srcs` into a file in place of what it held. -/
def rewrite (srcs : List (List α)) : List (Op α) := .fopen :: srcs.map .fwrite ++ [.fclose]

theorem run_rewrite (d : Disk α) (srcs : List (List α)) :
    d.run (rewrite srcs) = { file := some srcs.flatten } := by
  have hopen : d.run [.fopen] = ({ file := some [] } : Disk α) := rfl
  rw [rewrite, ← List.singleton_append, List.append_assoc, Disk.run_append, hopen, Disk.run_append,
    Disk.run_fwrite]
  simp [Disk.run, Disk.step]

/-- After some number of the operations the file on the disk is `file`. -/
def Leaves (ops : List (Op α)) (d : Disk α) (file : Option (List α)) : Prop :=
  ∃ n, (d.run (ops.take n)).file = file

theorem leaves_nil (d : Disk α) (file : Option (List α)) : Leaves [] d file ↔ file = d.file := by
  simp [Leaves, Disk.run, eq_comm]

theorem leaves_cons (op : Op α) (ops : List (Op α)) (d : Disk α) (file : Option (List α)) :
    Leaves (op :: ops) d file ↔ file = d.file ∨ Leaves ops (d.step op) file := by
  constructor
  · rintro ⟨n, h⟩
    cases n with
    | zero => exact .inl h.symm
    | succ n => exact .inr ⟨n, h⟩
  · rintro (rfl | ⟨n, h⟩)
    · exact ⟨0, rfl⟩
    · exact ⟨n + 1, h⟩

theorem leaves_append (ops ops' : List (Op α)) (d : Disk α) (file : Option (List α)) :
    Leaves (ops ++ ops') d file ↔ Leaves ops d file ∨ Leaves ops' (d.run ops) file := by
  induction ops generalizing d with
  | nil =>
    -- before the first operation of the second part is after the last of the first
    rw [List.nil_append, leaves_nil]
    exact ⟨.inr, fun h => h.elim (fun h => ⟨0, h.symm⟩) id⟩
  | cons op ops ih =>
    rw [List.cons_append, leaves_cons, leaves_cons, ih, or_assoc]
    rfl

theorem leaves_fwrite (srcs : List (List α)) (d : Disk α) (file : Option (List α)) :
    Leaves (srcs.map .fwrite) d file ↔ file = d.file := by
  induction srcs generalizing d with
  | nil => exact leaves_nil d file
  | cons src srcs ih => rw [List.map_cons, leaves_cons, ih]; exact or_self_iff

theorem leaves_rewrite (srcs : List (List α)) (d : Disk α) (file : Option (List α)) :
    Leaves (rewrite srcs) d file ↔ file = d.file ∨ file = some [] ∨ file = some srcs.flatten := by
  have hwritten := Disk.run_fwrite ({ file := some [] } : Disk α) srcs
  rw [rewrite, List.cons_append, leaves_cons, leaves_append, leaves_fwrite, leaves_cons, leaves_nil]
  rw [show d.step .fopen = { file := some [] } from rfl, hwritten]
  simp [Disk.step]

end Rewrite
