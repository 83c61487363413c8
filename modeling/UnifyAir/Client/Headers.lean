import Mathlib.Data.Finmap
import UnifyAir.Text.Json

/-!
# UnifyAir — structs as header maps

`utils/client/src/header_map_serializer.rs`. Each field of a struct becomes a header: its name with
`-` for `_`, its value through `serde_json::to_string`, without the first and the last character
where the text begins with a quotation mark. What is inside stays escaped.

Which texts make a header value is decided by the crate `http` and not by this repository, so
`HeaderValue::from_str` is a parameter, `fromStr`. The results rely on no more than
`HeaderValue.Documented` says of it; in particular they hold for a `from_str` that takes characters
outside ASCII as well as for one that refuses them.

* **`headers_faithful_iff`** — the headers of a struct are what they should be exactly when
  `to_headers` fails or every string in it is printable ASCII and needs no escape.
* **`quotes_stay_escaped`** — a quotation mark arrives with a backslash before it.
-/

namespace UnifyAir.Client

open Json (Printable Escaped)

/-! ## Names and values

The types of the crate `http`, as far as `to_headers` uses them. A name carries the proof that it is
one; a value is what `HeaderValue::from_str` has let through. -/

/-- A character of a header name, in lower case. -/
def isNameChar (c : Char) : Bool :=
  c.isDigit || c.isLower ||
    -- ! # $ % & ' * + - . ^ _ and the backquote, | and ~
    c.toNat ∈ [0x21, 0x23, 0x24, 0x25, 0x26, 0x27, 0x2A, 0x2B, 0x2D, 0x2E, 0x5E, 0x5F, 0x60, 0x7C,
      0x7E]

/-- `HeaderName`. -/
structure HeaderName where
  name : List Char
  wellFormed : name ≠ [] ∧ name.length < 2 ^ 16 ∧ name.all isNameChar = true
  deriving DecidableEq

/-- `HeaderName::from_str`, which folds the case. -/
def HeaderName.fromStr (text : List Char) : Option HeaderName :=
  let name := text.map Char.toLower
  if h : name ≠ [] ∧ name.length < 2 ^ 16 ∧ name.all isNameChar = true then some ⟨name, h⟩
  else none

/-- `HeaderValue`: the text that it was made from. -/
structure HeaderValue where
  text : List Char
  deriving DecidableEq

/-- What is relied on of `HeaderValue::from_str`: a value has the text that it is read from, and no
text of printable ASCII is refused. Which other texts are taken is left open. -/
structure HeaderValue.Documented (fromStr : List Char → Option HeaderValue) : Prop where
  text_eq : ∀ text value, fromStr text = some value → value.text = text
  accepts : ∀ text, (∀ c ∈ text, Printable c) → ∃ value, fromStr text = some value

/-- `HeaderMap`, whose names have one value each as long as nothing is appended. -/
abbrev HeaderMap := Finmap fun _ : HeaderName => HeaderValue

/-! ## `to_headers`

The serializer calls `serialize_field` for each field in turn. A struct is the only thing that it
takes. -/

/-- `serde_json::Error`. -/
abbrev JsonError := String

/-- `HeaderSerDeError`. -/
inductive HeaderSerDeError where
  | invalidType
  | invalidJsonValue (err : JsonError)
  | invalidHeaderName
  | invalidHeaderValue
  deriving DecidableEq, Repr

/-- A field that a struct serialises: its key, and what `serde_json` makes of its value. -/
structure Field where
  key : List Char
  value : Except JsonError Json

/-- What a value gives its serializer: the fields of a struct, or anything else. -/
inductive Serialized where
  | struct (fields : List Field)
  | other

/-- `HeaderName::from_str` on the key with `-` for `_`. -/
def Field.headerName (field : Field) : Option HeaderName :=
  HeaderName.fromStr (field.key.map fun c => if c = '_' then '-' else c)

/-- The text of a JSON value as a header: `&header_value[1..header_value.len() - 1]` when
`&header_value[0..1]` is a quotation mark. -/
def headerText (v : Json) : List Char :=
  let headerValue := v.toText
  if headerValue.head? = some '"' then (headerValue.drop 1).dropLast else headerValue

section ToHeaders

variable (fromStr : List Char → Option HeaderValue)

/-- `serialize_field`. -/
def serializeField (map : HeaderMap) (field : Field) : Except HeaderSerDeError HeaderMap :=
  match field.headerName with
  | none => .error .invalidHeaderName
  | some key => match field.value with
    | .error err => .error (.invalidJsonValue err)
    | .ok v => match fromStr (headerText v) with
      | none => .error .invalidHeaderValue
      | some value => .ok (map.insert key value)

/-- `to_headers`. -/
def toHeaders : Serialized → Except HeaderSerDeError HeaderMap
  | .struct fields => fields.foldlM (serializeField fromStr) ∅
  | .other => .error .invalidType

end ToHeaders

/-! ## What a field becomes

A field is either turned into one header or makes `to_headers` fail, whatever the map holds already.
`Field.Becomes` says which header; `serializeField_ok` is all that the later proofs use of
`serializeField`. -/

/-- For a string the two characters that are cut off are the quotation marks, and what is left is
its escaped text. -/
theorem headerText_string (s : List Char) : headerText (.string s) = Json.escape s := by
  show ((Json.escape s ++ ['"']).dropLast) = Json.escape s
  exact List.dropLast_concat

/-- No other value begins with a quotation mark, so nothing is cut off. -/
theorem headerText_of_not_string {v : Json} (h : ∀ s, v ≠ .string s) : headerText v = v.toText := by
  unfold headerText
  rw [if_neg]
  intro hhead
  obtain ⟨s, hs⟩ := Json.toText_head.mp hhead
  exact h s hs

/-- The text of a header has no characters that the value's JSON text has not. -/
theorem headerText_subset {v : Json} : headerText v ⊆ v.toText := by
  intro c hc
  simp only [headerText] at hc
  split at hc
  · exact List.mem_of_mem_drop (List.dropLast_subset _ hc)
  · exact hc

/-- Escapes are printable, so a string of printable ASCII is still one after `serde_json`: this is
what makes `HeaderValue::from_str` take it. -/
theorem printable_headerText {s : List Char} (hs : ∀ c ∈ s, Printable c) :
    ∀ c ∈ headerText (.string s), Printable c := by
  have htext : ∀ c ∈ (Json.string s).toText, Printable c :=
    Json.printable_toText.mpr fun c hc => (hs c hc).2
  exact fun c hc => htext c (headerText_subset hc)

section Fields

variable {fromStr : List Char → Option HeaderValue}

/-- The header of a field: its name and its value. -/
def Field.Becomes (fromStr : List Char → Option HeaderValue) (field : Field) (name : HeaderName)
    (value : HeaderValue) : Prop :=
  field.headerName = some name ∧ ∃ v, field.value = .ok v ∧ fromStr (headerText v) = some value

/-- What one field does to the map: it inserts the header that it becomes, or fails. The name may be
refused, the value may have no JSON text, and `from_str` may refuse what is left of the text. -/
theorem serializeField_ok {map map' : HeaderMap} {field : Field} :
    serializeField fromStr map field = .ok map' ↔
      ∃ name value, field.Becomes fromStr name value ∧ map' = map.insert name value := by
  constructor
  · -- from left to right the three things that may fail: the name, the JSON text, the value
    intro h
    unfold serializeField at h
    split at h
    · cases h
    · next name hname =>
      split at h
      · cases h
      · -- what is left is `HeaderValue::from_str`
        next v hv =>
        split at h
        · cases h
        · next value hvalue =>
          cases h
          exact ⟨name, value, ⟨hname, v, hv, hvalue⟩, rfl⟩
  · rintro ⟨name, value, ⟨hname, v, hv, hvalue⟩, rfl⟩
    simp only [serializeField, hname, hv, hvalue]

/-! ## What a struct becomes

The names of a struct's fields are all different, so that no field overwrites the header of another:
each of them finds its own header in the map, and the map has as many entries as there are
fields. -/

/-- The fields one after the other. A failure at the first is a failure of all, for `?` stands
behind each of them; else the others go on with the map that has the first header in it. -/
theorem serializeFields_cons {map map' : HeaderMap} {field : Field} {fields : List Field} :
    (field :: fields).foldlM (serializeField fromStr) map = .ok map' ↔ ∃ name value,
      field.Becomes fromStr name value ∧
        fields.foldlM (serializeField fromStr) (map.insert name value) = .ok map' := by
  rw [List.foldlM_cons]
  constructor
  · intro h
    -- the first field is refused, or the others go on with its header
    cases hfield : serializeField fromStr map field with
    | error err =>
      rw [hfield] at h
      cases h
    | ok map₁ =>
      rw [hfield] at h
      obtain ⟨name, value, hbecomes, rfl⟩ := serializeField_ok.mp hfield
      exact ⟨name, value, hbecomes, h⟩
  · intro ⟨name, value, hbecomes, h⟩
    rw [serializeField_ok.mpr ⟨name, value, hbecomes, rfl⟩]
    exact h

/-- A name that no field has keeps its value, by induction on the fields. -/
theorem lookup_of_not_mem {fields : List Field} {map map' : HeaderMap} {name : HeaderName}
    (h : fields.foldlM (serializeField fromStr) map = .ok map')
    (hname : some name ∉ fields.map Field.headerName) : map'.lookup name = map.lookup name := by
  induction fields generalizing map with
  | nil =>
    cases h
    rfl
  | cons field fields ih =>
    obtain ⟨name₁, value₁, hbecomes, hrest⟩ := serializeFields_cons.mp h
    rw [List.map_cons, List.mem_cons, not_or] at hname
    rw [ih hrest hname.2]
    refine Finmap.lookup_insert_of_ne _ fun heq => hname.1 ?_
    rw [heq, hbecomes.1]

/-- Each field has its header in the map. The fields behind it have other names, so they do not
touch it. -/
theorem lookup_of_mem {fields : List Field} {map map' : HeaderMap}
    (h : fields.foldlM (serializeField fromStr) map = .ok map')
    (hdistinct : (fields.map Field.headerName).Nodup) {field : Field} (hfield : field ∈ fields) :
    ∃ name value, field.Becomes fromStr name value ∧ map'.lookup name = some value := by
  induction fields generalizing map with
  | nil => cases hfield
  | cons field₁ fields ih =>
    obtain ⟨name, value, hbecomes, hrest⟩ := serializeFields_cons.mp h
    rw [List.map_cons, List.nodup_cons] at hdistinct
    rcases List.mem_cons.mp hfield with rfl | hfield
    · refine ⟨name, value, hbecomes, ?_⟩
      rw [lookup_of_not_mem hrest (hbecomes.1 ▸ hdistinct.1), Finmap.lookup_insert]
    · exact ih hrest hdistinct.2 hfield

/-- The names in the map are those that were there and those of the fields. -/
theorem mem_of_serializeFields {fields : List Field} {map map' : HeaderMap} {name : HeaderName}
    (h : fields.foldlM (serializeField fromStr) map = .ok map')
    (hdistinct : (fields.map Field.headerName).Nodup) :
    name ∈ map' ↔ name ∈ map ∨ some name ∈ fields.map Field.headerName := by
  by_cases hname : some name ∈ fields.map Field.headerName
  · obtain ⟨field, hfield, heq⟩ := List.mem_map.mp hname
    obtain ⟨name', value, hbecomes, hlookup⟩ := lookup_of_mem h hdistinct hfield
    obtain rfl : name' = name := Option.some.inj (hbecomes.1.symm.trans heq)
    exact iff_of_true (Finmap.mem_of_lookup_eq_some hlookup) (.inr hname)
  · rw [← Finmap.lookup_isSome, ← Finmap.lookup_isSome, lookup_of_not_mem h hname]
    simp [hname]

/-- There is one entry for each field: the names of the map and those of the fields are the same
finite set. -/
theorem card_keys {fields : List Field} {map : HeaderMap}
    (h : toHeaders fromStr (.struct fields) = .ok map)
    (hvalid : ∀ field ∈ fields, field.headerName ≠ none)
    (hdistinct : (fields.map Field.headerName).Nodup) : map.keys.card = fields.length := by
  have hkeys : map.keys.map ⟨some, Option.some_injective _⟩ =
      (fields.map Field.headerName).toFinset := by
    ext name
    rw [Finset.mem_map, List.mem_toFinset]
    constructor
    · -- a key is the name of a field, for there were none before
      rintro ⟨name, hname, rfl⟩
      rcases (mem_of_serializeFields h hdistinct).mp (Finmap.mem_keys.mp hname) with hempty | hname
      · exact (Finmap.notMem_empty hempty).elim
      · exact hname
    · intro hname
      obtain ⟨field, hfield, rfl⟩ := List.mem_map.mp hname
      obtain ⟨name, hfieldName⟩ := Option.ne_none_iff_exists'.mp (hvalid field hfield)
      rw [hfieldName] at hname ⊢
      exact ⟨name, Finmap.mem_keys.mpr ((mem_of_serializeFields h hdistinct).mpr (.inr hname)),
        rfl⟩
  have hcard := congrArg Finset.card hkeys
  rw [Finset.card_map, List.toFinset_card_of_nodup hdistinct, List.length_map] at hcard
  exact hcard

/-! ## Faithful headers

What a header should be, and when it is. A value that `HeaderValue::from_str` refuses does no harm
to the claim as long as it is not printable ASCII; one that is printable is always taken, so a
failure has some other cause. -/

/-- The text that a value should have as a header: itself if it is a string of printable ASCII, and
its compact JSON otherwise. -/
def faithfulText : Json → List Char
  | .string s => if s.all (fun c => decide (Printable c)) = true then s else (Json.string s).toText
  | v => v.toText

/-- The value is a string of printable ASCII. -/
def Field.IsPrintable (field : Field) : Prop :=
  ∃ s, field.value = .ok (.string s) ∧ ∀ c ∈ s, Printable c

/-- The fields of a struct: their keys make names, and all different ones. -/
structure HeaderStruct where
  fields : List Field
  valid : ∀ field ∈ fields, field.headerName ≠ none
  distinct : (fields.map Field.headerName).Nodup

/-- The headers of a struct are what they should be: `to_headers` does not fail for a string of
printable ASCII, and what it returns has one entry for each field, with the text of its value. -/
structure HeaderStruct.Faithful (fromStr : List Char → Option HeaderValue) (h : HeaderStruct) :
    Prop where
  accepted : ∀ field ∈ h.fields, field.IsPrintable →
    ∀ map, ∃ map', serializeField fromStr map field = .ok map'
  size : ∀ map, toHeaders fromStr (.struct h.fields) = .ok map → map.keys.card = h.fields.length
  values : ∀ map, toHeaders fromStr (.struct h.fields) = .ok map → ∀ field ∈ h.fields,
    ∃ name v value, field.headerName = some name ∧ field.value = .ok v ∧
      map.lookup name = some value ∧ value.text = faithfulText v

/-- `to_headers` fails at the field: `serde_json` does, or `HeaderValue::from_str` refuses the text
that the value has as a header. -/
def Field.Refused (fromStr : List Char → Option HeaderValue) (field : Field) : Prop :=
  ∀ v, field.value = .ok v → fromStr (headerText v) = none

/-- If the value is a string, then it is printable ASCII and has nothing to escape in it. -/
def Field.Plain (field : Field) : Prop :=
  ∀ s, field.value = .ok (.string s) → ∀ c ∈ s, Printable c ∧ ¬ Escaped c

/-- A field is refused exactly when it becomes no header. -/
theorem refused_iff {field : Field} (hname : field.headerName ≠ none) :
    field.Refused fromStr ↔ ∀ name value, ¬ field.Becomes fromStr name value := by
  constructor
  · intro hrefused name value ⟨_, v, hv, hvalue⟩
    cases (hrefused v hv).symm.trans hvalue
  · intro hnot v hv
    obtain ⟨name, hname⟩ := Option.ne_none_iff_exists'.mp hname
    cases hvalue : fromStr (headerText v) with
    | none => rfl
    | some value => exact (hnot name value ⟨hname, v, hv, hvalue⟩).elim

/-- A struct none of whose fields is refused has headers, by induction on the fields. -/
theorem exists_serializeFields {fields : List Field}
    (h : ∀ field ∈ fields, ∃ name value, field.Becomes fromStr name value) (map : HeaderMap) :
    ∃ map', fields.foldlM (serializeField fromStr) map = .ok map' := by
  induction fields generalizing map with
  | nil => exact ⟨map, rfl⟩
  | cons field fields ih =>
    obtain ⟨⟨name, value, hbecomes⟩, hfields⟩ := List.forall_mem_cons.mp h
    obtain ⟨map', hmap'⟩ := ih hfields (map.insert name value)
    exact ⟨map', serializeFields_cons.mpr ⟨name, value, hbecomes, hmap'⟩⟩

/-- The text of a header is the one it should have exactly when its value is not a string, or is a
string of printable ASCII that needs no escape. A string with any other character should keep its
quotation marks, which the header never has. -/
theorem headerText_faithful {v : Json} :
    headerText v = faithfulText v ↔ ∀ s, v = .string s → ∀ c ∈ s, Printable c ∧ ¬ Escaped c := by
  -- a string is written without its quotation marks; any other value is its JSON text
  by_cases hv : ∃ s, v = .string s
  · obtain ⟨s, rfl⟩ := hv
    rw [headerText_string]
    show Json.escape s = (if _ then _ else _) ↔ _
    constructor
    · intro heq s' hs' c hc
      cases hs'
      split at heq
      · next hprintable =>
        exact ⟨of_decide_eq_true (List.all_eq_true.mp hprintable c hc),
          Json.escape_eq_self.mp heq c hc⟩
      · -- the one text is longer than the other by two quotation marks
        have hlen := congrArg List.length heq
        simp only [Json.toText, Json.quoted, List.length_cons, List.cons_append,
          List.length_append, List.length_nil] at hlen
        omega
    · intro hplain
      have hprintable : s.all (fun c => decide (Printable c)) = true :=
        List.all_eq_true.mpr fun c hc => decide_eq_true (hplain s rfl c hc).1
      rw [if_pos hprintable]
      exact Json.escape_eq_self.mpr fun c hc => (hplain s rfl c hc).2
  · have hnot : ∀ s, v ≠ .string s := fun s hs => hv ⟨s, hs⟩
    refine iff_of_true ?_ fun s hs => (hnot s hs).elim
    rw [headerText_of_not_string hnot]
    -- for these `to_string` is used as it is
    cases v with
    | string s => exact (hnot s rfl).elim
    | null | bool | number | array | object => rfl

/-- The entry of a field, and its text, which is all that is relied on of `HeaderValue::from_str`.
-/
theorem HeaderStruct.entry_of_mem (hdoc : HeaderValue.Documented fromStr) {h : HeaderStruct}
    {map : HeaderMap} (hmap : toHeaders fromStr (.struct h.fields) = .ok map) {field : Field}
    (hfield : field ∈ h.fields) :
    ∃ name v value, field.headerName = some name ∧ field.value = .ok v ∧
      map.lookup name = some value ∧ value.text = headerText v := by
  obtain ⟨name, value, ⟨hname, v, hv, hvalue⟩, hlookup⟩ := lookup_of_mem hmap h.distinct hfield
  exact ⟨name, v, value, hname, hv, hlookup, hdoc.text_eq _ _ hvalue⟩

/-- `to_headers` fails at a refused field and at no other: the keys of the struct make names. -/
theorem HeaderStruct.toHeaders_ok_iff {h : HeaderStruct} :
    (∃ map, toHeaders fromStr (.struct h.fields) = .ok map) ↔
      ¬ ∃ field ∈ h.fields, field.Refused fromStr := by
  constructor
  · intro ⟨map, hmap⟩ ⟨field, hfield, hrefused⟩
    obtain ⟨name, value, hbecomes, -⟩ := lookup_of_mem hmap h.distinct hfield
    exact (refused_iff (h.valid field hfield)).mp hrefused name value hbecomes
  · intro hnone
    refine exists_serializeFields (fun field hfield => ?_) ∅
    by_contra hnot
    simp only [not_exists] at hnot
    exact hnone ⟨field, hfield, (refused_iff (h.valid field hfield)).mpr hnot⟩

/-- **Faithful headers, exactly without escapes.** The headers of a struct are what they should be
if and only if one of its fields makes `to_headers` fail, or each of its strings is printable ASCII
without a quotation mark or a backslash. -/
theorem headers_faithful_iff (hdoc : HeaderValue.Documented fromStr) (h : HeaderStruct) :
    h.Faithful fromStr ↔
      (∃ field ∈ h.fields, field.Refused fromStr) ∨ ∀ field ∈ h.fields, field.Plain := by
  constructor
  · intro hfaithful
    -- with a refused field there are no headers, and nothing to be faithful
    by_cases hrefused : ∃ field ∈ h.fields, field.Refused fromStr
    · exact .inl hrefused
    · refine .inr fun field hfield s hs => ?_
      obtain ⟨map, hmap⟩ := HeaderStruct.toHeaders_ok_iff.mpr hrefused
      obtain ⟨name, v, value, hname, hv, hlookup, htext⟩ :=
        HeaderStruct.entry_of_mem hdoc hmap hfield
      obtain ⟨name', v', value', hname', hv', hlookup', htext'⟩ :=
        hfaithful.values map hmap field hfield
      cases hname.symm.trans hname'
      cases hv.symm.trans hv'
      cases hlookup.symm.trans hlookup'
      exact headerText_faithful.mp (htext.symm.trans htext') s (Except.ok.inj (hv.symm.trans hs))
  · intro hcondition
    refine ⟨?_, fun map hmap => card_keys hmap h.valid h.distinct, ?_⟩
    · intro field hfield ⟨s, hs, hprintable⟩ map
      obtain ⟨name, hname⟩ := Option.ne_none_iff_exists'.mp (h.valid field hfield)
      obtain ⟨value, hvalue⟩ := hdoc.accepts _ (printable_headerText hprintable)
      exact ⟨_, serializeField_ok.mpr ⟨name, value, ⟨hname, _, hs, hvalue⟩, rfl⟩⟩
    · intro map hmap field hfield
      have hplain := hcondition.resolve_left (HeaderStruct.toHeaders_ok_iff.mp ⟨map, hmap⟩)
      obtain ⟨name, v, value, hname, hv, hlookup, htext⟩ :=
        HeaderStruct.entry_of_mem hdoc hmap hfield
      refine ⟨name, v, value, hname, hv, hlookup, htext.trans (headerText_faithful.mpr ?_)⟩
      rintro s rfl
      exact hplain field hfield s hv

end Fields

/-! ## Three structs

The `from_str` here looks at octets: it takes all of them from the blank on but DEL, and the
tabulator. A character outside ASCII has no other octets than such, so it is taken. -/

/-- No octet of the character is refused. -/
def isOpaque (c : Char) : Bool := (0x20 ≤ c.toNat && c.toNat != 0x7F) || c = '\t'

/-- A `HeaderValue::from_str` that looks at the octets of the text. -/
def opaqueFromStr (text : List Char) : Option HeaderValue :=
  if text.all isOpaque then some ⟨text⟩ else none

/-- Printable ASCII is made of octets that are taken. -/
theorem isOpaque_of_printable {c : Char} (h : Printable c) : isOpaque c = true := by
  obtain ⟨hlow, hhigh⟩ := h
  simp only [isOpaque, Bool.or_eq_true, Bool.and_eq_true, decide_eq_true_eq, bne_iff_ne]
  exact .inl ⟨hlow, by omega⟩

/-- So this `from_str` is one of those that the results are about. -/
theorem opaqueFromStr_documented : HeaderValue.Documented opaqueFromStr where
  text_eq text value h := by
    unfold opaqueFromStr at h
    split at h
    · cases h
      rfl
    · cases h
  accepts text h :=
    ⟨⟨text⟩, if_pos (List.all_eq_true.mpr fun c hc => isOpaque_of_printable (h c hc))⟩

/-- A struct with one field, `custom_info`. -/
def customInfo (v : Json) : HeaderStruct where
  fields := [⟨"custom_info".toList, .ok v⟩]
  valid field hfield := by
    obtain rfl := List.mem_singleton.mp hfield
    show HeaderName.fromStr ("custom_info".toList.map fun c => if c = '_' then '-' else c) ≠ none
    decide
  distinct := List.nodup_singleton _

/-- A word in printable ASCII has a faithful header. The letter é has none: the quotation marks that
belong to its JSON text are cut off. -/
theorem word_faithful_accent_not :
    (customInfo (.string ['a', 'b'])).Faithful opaqueFromStr ∧
      ¬ (customInfo (.string ['é'])).Faithful opaqueFromStr := by
  constructor
  · refine (headers_faithful_iff opaqueFromStr_documented _).mpr (.inr fun field hfield s hs => ?_)
    obtain rfl := List.mem_singleton.mp hfield
    cases hs
    rw [List.forall_mem_cons, List.forall_mem_singleton]
    exact ⟨by decide, by decide⟩
  · intro hfaithful
    rcases (headers_faithful_iff opaqueFromStr_documented _).mp hfaithful with
      ⟨field, hfield, hrefused⟩ | hplain
    · obtain rfl := List.mem_singleton.mp hfield
      exact absurd (hrefused _ rfl) (by decide)
    · exact absurd (hplain _ (.head _) _ rfl 'é' (.head _)).1 (by decide)

/-- The header of the letter a in quotation marks, with a backslash before each of them. -/
def escapedLetter : HeaderName × HeaderValue :=
  (⟨"custom-info".toList, by decide⟩, ⟨['\\', '"', 'a', '\\', '"']⟩)

/-- **Escaped quotes.** The text of the header has a backslash before each quotation mark, and it
should have none. -/
theorem quotes_stay_escaped :
    HeaderValue.Documented opaqueFromStr ∧
      ¬ (customInfo (.string ['"', 'a', '"'])).Faithful opaqueFromStr := by
  refine ⟨opaqueFromStr_documented, fun hfaithful => ?_⟩
  obtain ⟨name, v, value, hname, hv, hlookup, htext⟩ :=
    hfaithful.values ((∅ : HeaderMap).insert escapedLetter.1 escapedLetter.2) rfl _ (.head _)
  cases hname
  cases hv
  cases hlookup.symm.trans (Finmap.lookup_insert _)
  exact absurd htext (by decide)

end UnifyAir.Client
