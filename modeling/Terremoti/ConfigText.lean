import Terremoti.Lib.Bindings
import Terremoti.Lib.Pairs
import Terremoti.ServerConfig

/-!
# The text of a configuration (`Config::configSplit`)

`getline` gives the pieces between the delimiters, short of an empty last one
(`splitOn_getlines`), and each piece with a `:` is inserted under the text before the first of them.
So `configSplit` binds what the pairs of the text do, the last of a key (`configSplit_eq`).
-/

namespace Terremoti

/-- What stands between two `|`: a key without `:` and a value, or a text without `:`. -/
inductive ConfigItem
  | pair (key value : List Byte) (colon : 58 ∉ key) (key_bar : 124 ∉ key) (value_bar : 124 ∉ value)
  | junk (text : List Byte) (colon : 58 ∉ text) (bar : 124 ∉ text)

namespace ConfigItem

def text : ConfigItem → List Byte
  | pair key value _ _ _ => key ++ 58 :: value
  | junk text _ _ => text

def pair? : ConfigItem → Option (List Byte × List Byte)
  | pair key value _ _ _ => some (key, value)
  | junk _ _ _ => none

theorem bar_notMem_text (i : ConfigItem) : 124 ∉ i.text := by
  cases i with
  | pair key value colon key_bar value_bar =>
    exact Pairs.sep_notMem_render (p := (key, value)) (by decide) key_bar value_bar
  | junk text colon bar => exact bar

theorem parse_text (i : ConfigItem) : Pairs.parse 58 i.text = i.pair? := by
  cases i with
  | pair key value colon key_bar value_bar => exact Pairs.parse_render (p := (key, value)) colon
  | junk text colon bar => exact Pairs.parse_of_notMem colon

end ConfigItem

/-- The items with a `|` between them and perhaps one at the end. -/
def configText (items : List ConfigItem) (trailing : Bool) : List Byte :=
  [124].intercalate (items.map ConfigItem.text) ++ if trailing then [124] else []

/-! ### The pieces -/

theorem splitOn_getlines (delim : Byte) (s : List Byte) :
    s.splitOn delim = getlines delim s ∨ s.splitOn delim = getlines delim s ++ [[]] := by
  induction s with
  | nil => exact .inr rfl
  | cons c s ih =>
    rw [List.splitOn_cons_eq_if_modifyHead, getlines]
    by_cases hc : c = delim
    · rw [if_pos (beq_iff_eq.2 hc), if_pos hc]
      exact ih.imp (congrArg _) (congrArg _)
    · rw [if_neg (mt beq_iff_eq.1 hc), if_neg hc]
      cases hlines : getlines delim s with
      | nil =>
        rw [hlines] at ih
        rcases ih with h | h
        · exact absurd h (List.splitOn_ne_nil _ _)
        · rw [h]
          exact .inl rfl
      | cons item items =>
        rw [hlines] at ih
        rcases ih with h | h
        · rw [h]
          exact .inl rfl
        · rw [h]
          exact .inr rfl

theorem afterChr_eq (c : Byte) (s : List Byte) : afterChr c s = (Pairs.parse c s).map Prod.snd := by
  induction s with
  | nil => rfl
  | cons b s ih =>
    by_cases hb : b = c
    · simp [afterChr, Pairs.parse, hb]
    · rw [afterChr, if_neg hb, ih]
      by_cases hc : c ∈ s
      · simp [Pairs.parse, hc, hb]
      · simp [Pairs.parse, hc, Ne.symm hb]

theorem foldl_items (items : List (List Byte)) (elems : Params) :
    items.foldl (fun elems item =>
      match afterChr 58 item with
      | none => elems
      | some value => elems.insert (item.takeWhile (· != 58)) value) elems =
        Bindings.insertAll elems (items.filterMap (Pairs.parse 58)) := by
  induction items generalizing elems with
  | nil => rfl
  | cons item items ih =>
    rw [List.foldl_cons, ih, List.filterMap_cons, afterChr_eq]
    by_cases hcolon : 58 ∈ item
    · simp only [Pairs.parse, if_pos hcolon, Option.map_some, Bindings.insertAll_cons]
    · simp only [Pairs.parse, if_neg hcolon, Option.map_none]

/-- The pairs of the pieces, inserted in order. -/
theorem configSplit_eq (s : List Byte) (delim : Byte) :
    configSplit s delim =
      Bindings.insertAll ∅ ((s.splitOn delim).filterMap (Pairs.parse 58)) := by
  refine (foldl_items (getlines delim s) ∅).trans ?_
  rcases splitOn_getlines delim s with h | h
  · rw [h]
  · rw [h, List.filterMap_append]
    exact congrArg _ (List.append_nil _).symm

theorem splitOn_configText (items : List ConfigItem) (trailing : Bool) :
    ((configText items trailing).splitOn 124).filterMap (Pairs.parse 58) =
      items.filterMap ConfigItem.pair? := by
  have hparse : (items.map ConfigItem.text).filterMap (Pairs.parse 58) =
      items.filterMap ConfigItem.pair? := by
    rw [List.filterMap_map]
    exact List.filterMap_congr fun i _ => i.parse_text
  have hbar : ∀ l ∈ items.map ConfigItem.text, 124 ∉ l := by
    intro l hl
    obtain ⟨i, -, rfl⟩ := List.mem_map.1 hl
    exact i.bar_notMem_text
  by_cases hitems : items = []
  · subst hitems
    cases trailing <;> rfl
  · have hsplit : ([124].intercalate (items.map ConfigItem.text)).splitOn 124 =
        items.map ConfigItem.text :=
      List.splitOn_intercalate 124 hbar (by simpa using hitems)
    cases trailing with
    | false =>
      rw [configText, if_neg Bool.false_ne_true, List.append_nil, hsplit, hparse]
    | true =>
      rw [configText, if_pos rfl, List.splitOn_append_cons_self, hsplit, List.filterMap_append,
        hparse]
      exact List.append_nil _

/-- The text of a map's pairs, if it has any. -/
theorem splitOn_text_toList {params : Params}
    (h : ∀ p ∈ params.toList, 58 ∉ p.1 ∧ 124 ∉ p.1 ∧ 124 ∉ p.2) :
    ((Pairs.text 124 58 params.toList).splitOn 124).filterMap (Pairs.parse 58) = params.toList := by
  by_cases hparams : params.toList = []
  · rw [hparams]
    rfl
  · have hparse : ((Pairs.text 124 58 params.toList).splitOn 124).map (Pairs.parse 58) =
        params.toList.map some :=
      Pairs.parse_splitOn_text (by decide) hparams (fun p hp => (h p hp).1)
        (fun p hp => (h p hp).2.1) fun p hp => (h p hp).2.2
    rw [← Function.id_comp (Pairs.parse 58), ← List.filterMap_map, hparse, List.filterMap_map]
    exact List.filterMap_some

/-- A text of items gives the map of its pairs, each key with its last value and no other key; and
the pairs of a map, rendered, give the map again. -/
theorem configSplit_configText (items : List ConfigItem) (trailing : Bool) :
    (∀ key : List Byte, (configSplit (configText items trailing) 124)[key]? =
      Bindings.last (items.filterMap ConfigItem.pair?) key) ∧
    ∀ params : Params, (∀ p ∈ params.toList, 58 ∉ p.1 ∧ 124 ∉ p.1 ∧ 124 ∉ p.2) →
      ∀ key : List Byte,
        (configSplit (Pairs.text 124 58 params.toList) 124)[key]? = params[key]? := by
  constructor
  · intro key
    rw [configSplit_eq, splitOn_configText, Bindings.getElem?_insertAll,
      Std.TreeMap.getElem?_emptyc, Option.or_none]
  · intro params h key
    rw [configSplit_eq, splitOn_text_toList h, Bindings.getElem?_insertAll,
      Std.TreeMap.getElem?_emptyc, Option.or_none, Bindings.last_toList]

theorem configSplit_configText_server :
    let params : Params := (∅ : Params).insert (str "server") (str "http://a/")
    configText [.pair (str "server") (str "http://a/") (by decide) (by decide) (by decide),
        .junk (str "x") (by decide) (by decide), .junk [] (by decide) (by decide),
        .pair (str "server") [] (by decide) (by decide) (by decide)] true =
        str "server:http://a/|x||server:|" ∧
      (configSplit (str "server:http://a/|x||server:|") 124)[str "server"]? = some [] ∧
      (configSplit (Pairs.text 124 58 params.toList) 124)[str "server"]? =
        some (str "http://a/") := by
  intro params
  let items : List ConfigItem :=
    [.pair (str "server") (str "http://a/") (by decide) (by decide) (by decide),
      .junk (str "x") (by decide) (by decide), .junk [] (by decide) (by decide),
      .pair (str "server") [] (by decide) (by decide) (by decide)]
  have htext : configText items true = str "server:http://a/|x||server:|" := by decide
  obtain ⟨hitems, hparams⟩ := configSplit_configText items true
  rw [htext] at hitems
  refine ⟨htext, ?_, ?_⟩
  · rw [hitems]
    decide
  · rw [hparams params (by decide)]
    decide

end Terremoti
