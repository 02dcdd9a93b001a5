import SearchLink.Http.Query
import SearchLink.Proofs.Text.ByteRange
import SearchLink.Proofs.Text.Component

/-!
# `SearchLink.Proofs.Http.Query`: queries read what was written

`writeFields` writes named fields as a query: names and values as components of a URL, with
equals signs and ampersands between them. An encoded component holds none of the marks that a
query gives a meaning to, so reading a query that was written so gives back the fields
(`readFields_writeFields`), whatever names and values there are.
-/

set_option autoImplicit false

namespace SearchLink.Http

/-- A field as it stands in a query. -/
def writeField (field : Text × Text) : Text :=
  Text.encodeComponent field.1 ++ '=' :: Text.encodeComponent field.2

/-- Fields as a query. -/
def writeFields (fields : List (Text × Text)) : Text :=
  ['&'].intercalate (fields.map writeField)

/-- A query with one field. -/
theorem writeFields_singleton (field : Text × Text) : writeFields [field] = writeField field := by
  simp [writeFields]

/-- A query with a field in front of others. -/
theorem writeFields_cons_cons (field field' : Text × Text) (fields : List (Text × Text)) :
    writeFields (field :: field' :: fields)
      = writeField field ++ '&' :: writeFields (field' :: fields) := by
  simp [writeFields, List.intercalate_cons_cons]

/-! ### Components -/

/-- A mark that no component is written with does not stand in one. -/
theorem not_mem_encodeComponent {c : Char} (hc : Text.isComponentChar c = false) (t : Text) :
    c ∉ Text.encodeComponent t := by
  intro hmem
  rw [Text.mem_encodeComponent hmem] at hc
  simp at hc

/-- Reading an encoded component gives the text. -/
theorem decodeField_encodeComponent (t : Text) : decodeField (Text.encodeComponent t) = t := by
  rw [decodeField, Text.map_plus_encodeComponent]
  exact Text.ofUtf8_decodeBytes_encodeComponent t

/-! ### Fields -/

/-- Reading a written field gives its name and its value. -/
theorem readField_writeField (field : Text × Text) : readField (writeField field) = field := by
  have hname : '=' ∉ Text.encodeComponent field.1 := not_mem_encodeComponent (by decide) field.1
  have htake : (writeField field).takeWhile (· ≠ '=') = Text.encodeComponent field.1 :=
    Text.takeWhile_append_mark _ hname
  have hdrop : (writeField field).dropWhile (· ≠ '=') = '=' :: Text.encodeComponent field.2 :=
    Text.dropWhile_append_mark _ hname
  rw [readField, htake, hdrop, List.drop_succ_cons, List.drop_zero, decodeField_encodeComponent,
    decodeField_encodeComponent]

/-- **Reading a query gives the fields that it was written for.** -/
theorem readFields_writeFields (fields : List (Text × Text)) :
    readFields (writeFields fields) = fields := by
  have hread : (fields.map writeField).map readField = fields := by
    rw [List.map_map]
    exact (List.map_congr_left fun field _ => readField_writeField field).trans (List.map_id _)
  cases fields with
  | nil => rfl
  | cons field fields =>
    -- No field holds an ampersand, and none is empty.
    have hsplit : (writeFields (field :: fields)).splitOn '&'
        = (field :: fields).map writeField := by
      refine List.splitOn_intercalate '&' ?_ (by simp)
      rintro l hl hmem
      obtain ⟨f, -, rfl⟩ := List.mem_map.1 hl
      rcases List.mem_append.1 hmem with hmem | hmem
      · exact not_mem_encodeComponent (by decide) f.1 hmem
      · rcases List.mem_cons.1 hmem with heq | hmem
        · simp at heq
        · exact not_mem_encodeComponent (by decide) f.2 hmem
    have hnonempty : ∀ t ∈ (field :: fields).map writeField, (!t.isEmpty) = true := by
      intro t ht
      obtain ⟨f, -, rfl⟩ := List.mem_map.1 ht
      simp [writeField]
    rw [readFields, hsplit, List.filter_eq_self.2 hnonempty, hread]

/-! ### Searches -/

/-- A search is read from its three fields. -/
theorem SearchQuery.parse_writeFields (key selection page : Text) :
    SearchQuery.parse (writeFields [("engine".toList, key), ("text".toList, selection),
        ("page".toList, page)])
      = .ok ⟨key, selection, some page⟩ := by
  rw [SearchQuery.parse, readFields_writeFields]
  rfl

/-! ### Expansions -/

/-- An expansion is read from its four fields. -/
theorem ExpandQuery.parse_writeFields (template value name : Text) (encode : Bool) :
    ExpandQuery.parse (writeFields [("template".toList, template), ("text".toList, value),
        ("variable".toList, name),
        ("encode".toList, if encode then "true".toList else "false".toList)])
      = .ok ⟨template, value, name, encode⟩ := by
  rw [ExpandQuery.parse, readFields_writeFields]
  cases encode <;> rfl

end SearchLink.Http
