import Mathlib.Data.List.Basic
import Terremoti.Lib.Digits
import Terremoti.Lib.Pairs

/-!
# Requests of HTTP/1.1

A request is read off a stream of octets: lines up to an empty one, of which the first has the
method, the target and the version and each of the others a field, and then as many octets of body as
the field `Content-Length` says (`parse`). A request that is written is read back, whatever comes
behind it (`parse_render`), and so are the values in the body of a form, if no character of them
stands for another (`form_text`).
-/

namespace Message

abbrev Octet := BitVec 8

/-- A text in ASCII. -/
def octets (s : String) : List Octet := s.toList.map fun c => BitVec.ofNat 8 c.toNat

structure Request where
  method : List Octet
  target : List Octet
  fields : List (List Octet × List Octet)
  body : List Octet
  deriving DecidableEq

/-! ### Reading -/

/-- The lines up to an empty one, the first of which goes on from `line`, and what is behind it. -/
def cutHead (line : List Octet) : List Octet → Option (List (List Octet) × List Octet)
  | a :: b :: s =>
    if a = 13 ∧ b = 10 then
      if line = [] then some ([], s) else (cutHead [] s).map fun r => (line :: r.1, r.2)
    else cutHead (line ++ [a]) (b :: s)
  | _ => none

/-- A number in decimal. -/
def decimal? (s : List Octet) : Option ℕ :=
  if s ≠ [] ∧ ∀ c ∈ s, 48 ≤ c ∧ c ≤ 57 then
    some (Digits.value 10 (s.map fun c => c.toNat - 48))
  else none

/-- The name before the first `:`, and what is behind it but for blanks at its start. -/
def field? (line : List Octet) : Option (List Octet × List Octet) :=
  (Pairs.parse 58 line).map fun p => (p.1, p.2.dropWhile (· = 32))

/-- The method and the target on a line that ends with the version. -/
def start? (line : List Octet) : Option (List Octet × List Octet) :=
  match line.splitOn 32 with
  | [method, target, version] =>
    if target ≠ [] ∧ version = octets "HTTP/1.1" then some (method, target) else none
  | _ => none

/-- The length of the body behind the fields. -/
def length? (fields : List (List Octet × List Octet)) : Option ℕ :=
  match fields.lookup (octets "Content-Length") with
  | some value => decimal? value
  | none => some 0

/-- The request at the start of a stream, and what is behind it. -/
def parse (s : List Octet) : Option (Request × List Octet) :=
  match cutHead [] s with
  | some (start :: lines, rest) =>
    match start? start, lines.mapM field? with
    | some (method, target), some fields =>
      match length? fields with
      | some n =>
        if n ≤ rest.length then some (⟨method, target, fields, rest.take n⟩, rest.drop n) else none
      | none => none
    | _, _ => none
  | _ => none

/-- A digit in hexadecimal. -/
def nibble? (c : Octet) : Option ℕ :=
  if 48 ≤ c ∧ c ≤ 57 then some (c.toNat - 48)
  else if 65 ≤ c ∧ c ≤ 70 then some (c.toNat - 55)
  else if 97 ≤ c ∧ c ≤ 102 then some (c.toNat - 87)
  else none

/-- A text of a form: `+` stands for a blank, `%` and two digits for an octet. -/
def unescape : List Octet → List Octet
  | 37 :: a :: b :: s =>
    match nibble? a, nibble? b with
    | some x, some y => BitVec.ofNat 8 (16 * x + y) :: unescape s
    | _, _ => 37 :: unescape (a :: b :: s)
  | c :: s => (if c = 43 then 32 else c) :: unescape s
  | [] => []

/-- The values in the body of a form. -/
def form (body : List Octet) : List (Option (List Octet × List Octet)) :=
  (body.splitOn 38).map fun s => (Pairs.parse 61 s).map fun p => (unescape p.1, unescape p.2)

/-! ### Writing -/

def crlf (line : List Octet) : List Octet := line ++ [13, 10]

def startLine (method target : List Octet) : List Octet :=
  method ++ [32] ++ target ++ octets " HTTP/1.1"

def fieldLine (p : List Octet × List Octet) : List Octet := p.1 ++ octets ": " ++ p.2

def render (r : Request) : List Octet :=
  crlf (startLine r.method r.target) ++ r.fields.flatMap (fun p => crlf (fieldLine p)) ++ crlf [] ++
    r.body

/-- A field that can be told apart from the others. -/
structure IsField (p : List Octet × List Octet) : Prop where
  name : 58 ∉ p.1
  cr : 13 ∉ p.1 ∧ 13 ∉ p.2
  blank : p.2.head? ≠ some 32

structure Request.WellFormed (r : Request) : Prop where
  method : 32 ∉ r.method ∧ 13 ∉ r.method
  target : 32 ∉ r.target ∧ 13 ∉ r.target
  named : r.target ≠ []
  fields : ∀ p ∈ r.fields, IsField p
  length : length? r.fields = some r.body.length

/-! ### What is written is read back -/

theorem cutHead_crlf {line l : List Octet} (h : 13 ∉ l) (s : List Octet) :
    cutHead line (crlf l ++ s) =
      if line ++ l = [] then some ([], s)
      else (cutHead [] s).map fun r => ((line ++ l) :: r.1, r.2) := by
  induction l generalizing line with
  | nil =>
    rw [List.append_nil]
    show cutHead line (13 :: 10 :: s) = _
    rw [cutHead, if_pos ⟨rfl, rfl⟩]
  | cons a l ih =>
    have ha : a ≠ 13 := fun ha => h (ha ▸ List.mem_cons_self)
    have hl : (13 : Octet) ∉ l := fun hl => h (List.mem_cons_of_mem a hl)
    have hstep : cutHead line (crlf (a :: l) ++ s) = cutHead (line ++ [a]) (crlf l ++ s) := by
      cases l with
      | nil => exact if_neg fun h => ha h.1
      | cons b l => exact if_neg fun h => ha h.1
    rw [hstep, ih hl, List.append_assoc]
    rfl

theorem cutHead_lines {lines : List (List Octet)} (h : ∀ l ∈ lines, l ≠ [] ∧ 13 ∉ l)
    (s : List Octet) : cutHead [] (lines.flatMap crlf ++ crlf [] ++ s) = some (lines, s) := by
  induction lines with
  | nil => rfl
  | cons l lines ih =>
    obtain ⟨hne, hcr⟩ := h l List.mem_cons_self
    rw [List.flatMap_cons, List.append_assoc, List.append_assoc, cutHead_crlf hcr, List.nil_append,
      if_neg hne, ← List.append_assoc, ih fun l hl => h l (List.mem_cons_of_mem _ hl)]
    rfl

/-- Without an empty line there is no request. -/
theorem cutHead_eq_none {lines : List (List Octet)} (h : ∀ l ∈ lines, l ≠ [] ∧ 13 ∉ l) :
    cutHead [] (lines.flatMap crlf) = none := by
  induction lines with
  | nil => rfl
  | cons l lines ih =>
    obtain ⟨hne, hcr⟩ := h l List.mem_cons_self
    rw [List.flatMap_cons, cutHead_crlf hcr, List.nil_append, if_neg hne,
      ih fun l hl => h l (List.mem_cons_of_mem _ hl)]
    rfl

theorem decimal?_digits {ds : List ℕ} (hne : ds ≠ []) (hds : ∀ d ∈ ds, d < 10) :
    decimal? (ds.map fun d => BitVec.ofNat 8 (48 + d)) = some (Digits.value 10 ds) := by
  have hdigit : ∀ d < 10, (48 : Octet) ≤ BitVec.ofNat 8 (48 + d) ∧
      BitVec.ofNat 8 (48 + d) ≤ (57 : Octet) ∧ (BitVec.ofNat 8 (48 + d)).toNat - 48 = d := by
    intro d hd
    rw [BitVec.le_def, BitVec.le_def, BitVec.toNat_ofNat, Nat.mod_eq_of_lt (by omega)]
    exact ⟨Nat.le_add_right 48 d, by show 48 + d ≤ 57; omega, Nat.add_sub_cancel_left 48 d⟩
  rw [decimal?, if_pos, List.map_map]
  · congr 2
    refine (List.map_congr_left fun d hd => ?_).trans (List.map_id ds)
    exact (hdigit d (hds d hd)).2.2
  · refine ⟨fun h => hne (List.map_eq_nil_iff.1 h), fun c hc => ?_⟩
    obtain ⟨d, hd, rfl⟩ := List.mem_map.1 hc
    exact ⟨(hdigit d (hds d hd)).1, (hdigit d (hds d hd)).2.1⟩

theorem unescape_of_notMem {s : List Octet} (hplus : 43 ∉ s) (hpercent : 37 ∉ s) :
    unescape s = s := by
  induction s with
  | nil => rfl
  | cons c s ih =>
    have hc : c ≠ 43 ∧ c ≠ 37 :=
      ⟨fun h => hplus (h ▸ List.mem_cons_self), fun h => hpercent (h ▸ List.mem_cons_self)⟩
    have hstep : unescape (c :: s) = (if c = 43 then 32 else c) :: unescape s := by
      rw [unescape.eq_def]
      split
      · rename_i heq
        exact absurd (List.cons.inj heq).1 hc.2
      · rename_i heq
        obtain ⟨rfl, rfl⟩ := List.cons.inj heq
        rfl
      · rename_i heq
        cases heq
    rw [hstep, if_neg hc.1, ih (fun h => hplus (List.mem_cons_of_mem c h))
      fun h => hpercent (List.mem_cons_of_mem c h)]

/-- Values without a character that stands for another are read as they are. -/
theorem form_text {ps : List (List Octet × List Octet)} (hps : ps ≠ [])
    (hkey : ∀ p ∈ ps, ∀ c ∈ [(38 : Octet), 61, 43, 37], c ∉ p.1)
    (hvalue : ∀ p ∈ ps, ∀ c ∈ [(38 : Octet), 43, 37], c ∉ p.2) :
    form (Pairs.text 38 61 ps) = ps.map some := by
  have hpairs := Pairs.parse_splitOn_text (show (38 : Octet) ≠ 61 by decide) hps
    (fun p hp => hkey p hp 61 (by decide)) (fun p hp => hkey p hp 38 (by decide))
    fun p hp => hvalue p hp 38 (by decide)
  have hform := congrArg
    (List.map (Option.map fun p : List Octet × List Octet => (unescape p.1, unescape p.2))) hpairs
  rw [List.map_map, List.map_map] at hform
  refine hform.trans (List.map_congr_left fun p hp => congrArg some (Prod.ext ?_ ?_))
  · exact unescape_of_notMem (hkey p hp 43 (by decide)) (hkey p hp 37 (by decide))
  · exact unescape_of_notMem (hvalue p hp 43 (by decide)) (hvalue p hp 37 (by decide))

theorem field?_fieldLine {p : List Octet × List Octet} (h : IsField p) :
    field? (fieldLine p) = some p := by
  have hline : fieldLine p = Pairs.render 58 (p.1, 32 :: p.2) := by
    rw [fieldLine, List.append_assoc]
    rfl
  rw [field?, hline, Pairs.parse_render (p := (p.1, 32 :: p.2)) h.name, Option.map_some]
  congr 2
  rw [List.dropWhile_cons_of_pos (by simp)]
  cases hp : p.2 with
  | nil => rfl
  | cons c v =>
    have hc : c ≠ 32 := fun hc => h.blank (by rw [hp, hc]; rfl)
    rw [List.dropWhile_cons_of_neg (by simpa using hc)]

theorem mapM_fieldLine {ps : List (List Octet × List Octet)} (h : ∀ p ∈ ps, IsField p) :
    (ps.map fieldLine).mapM field? = some ps := by
  induction ps with
  | nil => rfl
  | cons p ps ih =>
    rw [List.map_cons, List.mapM_cons, field?_fieldLine (h p List.mem_cons_self),
      ih fun p hp => h p (List.mem_cons_of_mem _ hp)]
    rfl

theorem start?_startLine {method target : List Octet} (hmethod : 32 ∉ method)
    (htarget : 32 ∉ target) :
    start? (startLine method target) = if target ≠ [] then some (method, target) else none := by
  have hline : startLine method target = method ++ 32 :: (target ++ 32 :: octets "HTTP/1.1") := by
    rw [startLine, List.append_assoc, List.append_assoc]
    rfl
  rw [start?, hline, List.splitOn_append_cons_self_of_not_mem hmethod,
    List.splitOn_append_cons_self_of_not_mem htarget, List.splitOn_eq_singleton (by decide)]
  dsimp only
  refine if_congr (and_iff_left rfl) rfl rfl

theorem eq_singleton_of_append {β : Type} {x y z : List β} {a b c : β}
    (h : x ++ (y ++ z) = [a, b, c]) (hx : x ≠ []) (hy : y ≠ []) (hz : z ≠ []) : z = [c] := by
  obtain ⟨a', x, rfl⟩ := List.exists_cons_of_ne_nil hx
  obtain ⟨b', y, rfl⟩ := List.exists_cons_of_ne_nil hy
  obtain ⟨c', z, rfl⟩ := List.exists_cons_of_ne_nil hz
  have hlen := congrArg List.length h
  simp only [List.length_append, List.length_cons, List.length_nil] at hlen
  obtain rfl := List.eq_nil_of_length_eq_zero (show x.length = 0 by omega)
  obtain rfl := List.eq_nil_of_length_eq_zero (show y.length = 0 by omega)
  obtain rfl := List.eq_nil_of_length_eq_zero (show z.length = 0 by omega)
  have hpieces : a' = a ∧ b' = b ∧ c' = c := by simpa using h
  rw [hpieces.2.2]

/-- A start line that is cut off before its end is none. -/
theorem start?_take {method target : List Octet} (hmethod : 32 ∉ method) (htarget : 32 ∉ target)
    {n : ℕ} (h : n < (startLine method target).length) :
    start? ((startLine method target).take n) = none := by
  have hline : startLine method target = method ++ 32 :: (target ++ 32 :: octets "HTTP/1.1") := by
    rw [startLine, List.append_assoc, List.append_assoc]
    rfl
  have hwhole : (startLine method target).splitOn 32 = [method, target, octets "HTTP/1.1"] := by
    rw [hline, List.splitOn_append_cons_self_of_not_mem hmethod,
      List.splitOn_append_cons_self_of_not_mem htarget, List.splitOn_eq_singleton (by decide)]
  rw [start?]
  split
  · rename_i m t v heq
    rw [if_neg]
    rintro ⟨-, rfl⟩
    -- what is left of the line would have to be all of it
    have hcut : (startLine method target).take n = m ++ 32 :: (t ++ 32 :: octets "HTTP/1.1") := by
      have hback : [(32 : Octet)].intercalate (((startLine method target).take n).splitOn 32) =
          (startLine method target).take n := List.intercalate_splitOn 32
      rw [← hback, heq]
      simp [List.intercalate]
    have hpieces := hwhole
    rw [← List.take_append_drop n (startLine method target), hcut, List.append_assoc,
      List.cons_append, List.append_assoc, List.cons_append, List.splitOn_append_cons_self,
      List.splitOn_append_cons_self] at hpieces
    have hlast := eq_singleton_of_append hpieces (List.splitOn_ne_nil _ _) (List.splitOn_ne_nil _ _)
      (List.splitOn_ne_nil _ _)
    have hversion : [(32 : Octet)].intercalate ((octets "HTTP/1.1" ++
        (startLine method target).drop n).splitOn 32) =
        octets "HTTP/1.1" ++ (startLine method target).drop n := List.intercalate_splitOn 32
    rw [hlast, List.intercalate_singleton, List.self_eq_append_right, List.drop_eq_nil_iff]
      at hversion
    omega
  · rfl

theorem parse_lines {start : List Octet} (hstart : start ≠ [] ∧ 13 ∉ start)
    {fields : List (List Octet × List Octet)} (h : ∀ p ∈ fields, IsField p) (s : List Octet) :
    parse (crlf start ++ fields.flatMap (fun p => crlf (fieldLine p)) ++ crlf [] ++ s) =
      (start? start).bind fun r => (length? fields).bind fun n =>
        if n ≤ s.length then some (⟨r.1, r.2, fields, s.take n⟩, s.drop n) else none := by
  have hlines : ∀ l ∈ start :: fields.map fieldLine, l ≠ [] ∧ (13 : Octet) ∉ l := by
    refine List.forall_mem_cons.2 ⟨hstart, fun l hl => ?_⟩
    obtain ⟨p, hp, rfl⟩ := List.mem_map.1 hl
    refine ⟨fun hnil => ?_, ?_⟩
    · rw [fieldLine, List.append_eq_nil_iff, List.append_eq_nil_iff] at hnil
      exact absurd hnil.1.2 (by decide)
    · simp only [fieldLine, List.mem_append, not_or]
      exact ⟨⟨(h p hp).cr.1, by decide⟩, (h p hp).cr.2⟩
  have hhead := cutHead_lines hlines s
  rw [List.flatMap_cons, List.flatMap_map] at hhead
  rw [parse, hhead]
  dsimp only
  rw [mapM_fieldLine h]
  cases start? start with
  | none => rfl
  | some r =>
    obtain ⟨method, target⟩ := r
    cases hlength : length? fields with
    | none => simp [hlength]
    | some n => simp [hlength]

theorem parse_render {r : Request} (h : r.WellFormed) (rest : List Octet) :
    parse (render r ++ rest) = some (r, rest) := by
  have hstart : startLine r.method r.target ≠ [] ∧ (13 : Octet) ∉ startLine r.method r.target := by
    refine ⟨List.append_ne_nil_of_right_ne_nil _ (by decide), ?_⟩
    simp only [startLine, List.mem_append, not_or]
    exact ⟨⟨⟨h.method.2, by decide⟩, h.target.2⟩, by decide⟩
  rw [render, List.append_assoc, parse_lines hstart h.fields, start?_startLine h.method.1 h.target.1,
    if_pos h.named, h.length]
  dsimp only [Option.bind_some]
  rw [if_pos (by simp), List.take_left, List.drop_left]

end Message
