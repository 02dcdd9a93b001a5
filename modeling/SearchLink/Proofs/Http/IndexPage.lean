import SearchLink.Http.Service
import SearchLink.Proofs.Catalog.Construction
import SearchLink.Proofs.Http.Entities
import SearchLink.Proofs.Text.ByteRange

/-!
# `SearchLink.Proofs.Http.IndexPage`: what the list of engines shows

The list has a row for each engine, with four fields of the engine in its cells (`shown`). A field
is escaped by the table `numericTable`, so it holds no `<`, and a cell ends at the first one.

* `row_append_inj`: the row at the start of a text can be read in one way only.
* `write_inj`: so the page tells which fields its rows show, since no row begins like the part of
  the page behind the rows.
* `filter_write`: all of the markup is that of a page with empty cells.

`index_of_catalog` puts this together for the page that the service answers with.
-/

set_option autoImplicit false

namespace SearchLink.Http

/-- The entities of a cell. -/
def Markup.numericTable : Markup.Entities where
  entries := [('&', "&#38;".toList), ('<', "&#60;".toList), ('>', "&#62;".toList),
    ('"', "&#34;".toList), ('\x27', "&#39;".toList)]
  ampersand := by decide
  form := by decide +kernel
  apart := by decide +kernel

/-- The numeric references are the entities of this table. -/
theorem Markup.entity?_numericTable (c : Char) :
    Markup.numericTable.entity? c = (Markup.numericReference? c).map String.toList := by
  unfold Markup.numericReference?
  split
  case h_6 hamp hlt hgt hquote hapostrophe =>
    simp [Markup.Entities.entity?, Markup.numericTable, Ne.symm hamp, Ne.symm hlt, Ne.symm hgt,
      Ne.symm hquote, Ne.symm hapostrophe]
  all_goals decide +kernel

/-- A text with numeric references is escaped by the table. -/
theorem Markup.escapeNumeric_eq (t : Text) :
    Markup.escapeNumeric t = Markup.numericTable.escape t := by
  simp only [Markup.escapeNumeric, Markup.Entities.escape, Markup.entity?_numericTable]

namespace IndexPage

/-- The fields of an engine that its row shows: the alias, the name, the template and the
description, empty when there is none. -/
def shown (e : Engine) : List Text := [e.key, e.name, e.template, e.description.getD []]

/-- What stands in front of the first cell of a row. -/
def rowFront : Text := "\n        <tr>\n            <td>".toList

/-- What stands behind each of the cells, up to the next one or to the end of the row. -/
def rowTags : List Text :=
  ["</td>\n            <td>".toList, "</td>\n            <td><code>".toList,
    "</code></td>\n            <td>".toList, "</td>\n        </tr>\n        ".toList]

/-- Fields in cells: each is escaped by the table, and a tag stands behind it. -/
def cells (tags fields : List Text) : Text :=
  (fields.zip tags).flatMap fun c => Markup.numericTable.escape c.1 ++ c.2

/-- A row with fields in its cells. -/
def rowOf (fields : List Text) : Text := rowFront ++ cells rowTags fields

/-- The characters that make markup of a text, or end a quoted one. -/
def markupChars : List Char := ['<', '>', '"', '\x27']

/-- Each of them has an entity. -/
theorem all_markupChars :
    markupChars.all (fun c => (Markup.numericTable.entity? c).isSome && c ≠ '&') = true := by
  decide +kernel

/-! ### Rows -/

/-- The row of an engine holds the fields that it shows. -/
theorem row_eq (e : Engine) : row e = rowOf (shown e) := by
  have htags : ["</td>\n".toList ++ "            <td>".toList,
      "</td>\n".toList ++ "            <td><code>".toList,
      "</code></td>\n".toList ++ "            <td>".toList,
      "</td>\n        </tr>\n        ".toList] = rowTags := by
    decide +kernel
  -- The tags of two neighbouring cells make one, whatever the tags are.
  have hshape : ∀ front a b c d k n u s end' : Text, ∀ t : List Text,
      (front ++ k ++ a) ++ (b ++ n ++ a) ++ (c ++ u ++ d) ++ (b ++ s ++ end')
        = front ++ (k ++ (a ++ b) ++ (n ++ (a ++ c) ++ (u ++ (d ++ b) ++ (s ++ end' ++ [])))) := by
    simp
  rw [rowOf, ← htags]
  simp only [row, cell, Markup.escapeNumeric_eq]
  exact hshape _ _ _ _ _ _ _ _ _ _ []

/-- Fields in cells whose tags begin with `<` can be read in one way only. -/
theorem cells_append_inj {tags fields fields' : List Text} {r s : Text}
    (htags : ∀ tag ∈ tags, tag.head? = some '<') (hlength : fields.length = tags.length)
    (hlength' : fields'.length = tags.length)
    (h : cells tags fields ++ r = cells tags fields' ++ s) : fields = fields' ∧ r = s := by
  induction tags generalizing fields fields' with
  | nil =>
    obtain rfl := List.length_eq_zero_iff.1 hlength
    obtain rfl := List.length_eq_zero_iff.1 hlength'
    exact ⟨rfl, h⟩
  | cons tag tags ih =>
    obtain ⟨htag, hrest⟩ := List.forall_mem_cons.1 htags
    obtain ⟨word, rfl⟩ := List.head?_eq_some_iff.1 htag
    obtain ⟨a, fields, rfl⟩ := List.exists_cons_of_length_eq_add_one hlength
    obtain ⟨b, fields', rfl⟩ := List.exists_cons_of_length_eq_add_one hlength'
    -- A field is escaped, so it ends where its tag begins.
    have hnone : ∀ t, '<' ∉ Markup.numericTable.escape t := fun t =>
      Markup.Entities.not_mem_escape all_markupChars (by decide)
    simp only [cells, List.zip_cons_cons, List.flatMap_cons, List.append_assoc,
      List.cons_append] at h
    obtain ⟨hfield, h⟩ := Text.append_mark_inj _ (hnone a) (hnone b) h
    obtain ⟨rfl, rfl⟩ := ih hrest (Nat.succ.inj hlength) (Nat.succ.inj hlength')
      (List.append_cancel_left h)
    rw [Markup.Entities.escape_inj hfield]
    exact ⟨rfl, rfl⟩

/-- A row at the start of a text can be read in one way only. -/
theorem row_append_inj {e f : Engine} {r s : Text}
    (h : rowOf (shown e) ++ r = rowOf (shown f) ++ s) : shown e = shown f ∧ r = s := by
  have htags : ∀ tag ∈ rowTags, tag.head? = some '<' := by decide +kernel
  rw [rowOf, rowOf, List.append_assoc, List.append_assoc] at h
  exact cells_append_inj htags rfl rfl (List.append_cancel_left h)

/-- No row begins like the part of the page behind the rows. -/
theorem row_append_ne_tail (fields : List Text) (r : Text) : rowOf fields ++ r ≠ tail := by
  intro h
  -- The tag of a row stands further to the right than the one that ends the table.
  have hrow : (rowOf fields ++ r)[5]? = some ' ' := rfl
  have htail : tail[5]? = some '<' := by decide +kernel
  rw [h, htail] at hrow
  simp at hrow

/-- The markup of cells is that of their tags. -/
theorem filter_cells {tags fields : List Text} (hlength : fields.length = tags.length) :
    (cells tags fields).filter markupChars.contains = tags.flatten.filter markupChars.contains := by
  induction tags generalizing fields with
  | nil =>
    obtain rfl := List.length_eq_zero_iff.1 hlength
    rfl
  | cons tag tags ih =>
    obtain ⟨field, fields, rfl⟩ := List.exists_cons_of_length_eq_add_one hlength
    have hrest := ih (Nat.succ.inj hlength)
    simp only [cells] at hrest
    simp only [cells, List.zip_cons_cons, List.flatMap_cons, List.flatten_cons,
      List.filter_append, Markup.Entities.filter_escape all_markupChars, List.nil_append, hrest]

/-! ### Pages -/

/-- A page in terms of the fields that it shows. -/
theorem write_eq (c : Catalog) : write c = head ++ (c.engines.map shown).flatMap rowOf ++ tail := by
  rw [write, List.flatMap_map, funext row_eq]

/-- Rows in front of the end of a page can be read in one way only. -/
theorem rows_inj {engines engines' : List Engine}
    (h : (engines.map shown).flatMap rowOf ++ tail = (engines'.map shown).flatMap rowOf ++ tail) :
    engines.map shown = engines'.map shown := by
  induction engines generalizing engines' with
  | nil =>
    cases engines' with
    | nil => rfl
    | cons f engines' =>
      rw [List.map_cons, List.flatMap_cons, List.append_assoc] at h
      exact absurd h.symm (row_append_ne_tail _ _)
  | cons e engines ih =>
    cases engines' with
    | nil =>
      rw [List.map_cons, List.flatMap_cons, List.append_assoc] at h
      exact absurd h (row_append_ne_tail _ _)
    | cons f engines' =>
      simp only [List.map_cons, List.flatMap_cons, List.append_assoc] at h
      obtain ⟨hrow, hrest⟩ := row_append_inj h
      rw [List.map_cons, List.map_cons, hrow, ih hrest]

/-- Two pages are the same exactly if they show the same fields. -/
theorem write_inj {c d : Catalog} :
    write c = write d ↔ c.engines.map shown = d.engines.map shown := by
  rw [write_eq, write_eq]
  refine ⟨fun h => ?_, fun h => by rw [h]⟩
  rw [List.append_assoc, List.append_assoc] at h
  exact rows_inj (List.append_cancel_left h)

/-- The markup of a page is that of a page with as many rows of empty cells. -/
theorem filter_write (c : Catalog) :
    (write c).filter markupChars.contains
      = (head ++ c.engines.flatMap (fun _ => rowFront ++ rowTags.flatten) ++ tail).filter
          markupChars.contains := by
  have hrow : ∀ e, (rowOf (shown e)).filter markupChars.contains
      = (rowFront ++ rowTags.flatten).filter markupChars.contains := by
    intro e
    have hlength : (shown e).length = rowTags.length := rfl
    rw [rowOf, List.filter_append, filter_cells hlength, ← List.filter_append]
  simp only [write_eq, List.filter_append, List.filter_flatMap, List.flatMap_map, hrow]

end IndexPage

/-- **The list of engines.** The answer to `GET` at `/` is a page for the catalog. It consists of a
fixed front, the rows of the engines in the order of their aliases, which are all different, and
a fixed end. In the cells stand the alias, the name, the template and the description of the
engine, escaped, and an escaped field holds no angle bracket and no quote: all of these in the page
are there without the fields, too. Two catalogs have the same page exactly if they have the same
fields in the same order. -/
theorem index_of_catalog {settings : List EngineSettings} {c : Catalog}
    (hc : Catalog.ofSettings settings = .ok c) {r : Request} (hmethod : r.method = "GET".toList)
    (hpath : r.target.path = ['/']) :
    (Service.respond c r).status = 200 ∧
    (Service.respond c r).body
      = IndexPage.head ++ (c.engines.map IndexPage.shown).flatMap IndexPage.rowOf ++
          IndexPage.tail ∧
    c.engines.Perm (settings.map Engine.ofSettings) ∧
    c.engines.Pairwise (fun e f => e.key < f.key) ∧
    (∀ t, ∀ ch ∈ IndexPage.markupChars, ch ∉ Markup.numericTable.escape t) ∧
    (Service.respond c r).body.filter IndexPage.markupChars.contains
      = (IndexPage.head ++
          c.engines.flatMap (fun _ => IndexPage.rowFront ++ IndexPage.rowTags.flatten) ++
          IndexPage.tail).filter IndexPage.markupChars.contains ∧
    ∀ d : Catalog, (Service.respond d r).body = (Service.respond c r).body ↔
      d.engines.map IndexPage.shown = c.engines.map IndexPage.shown := by
  have hpage : ∀ d, Service.respond d r = .html 200 (IndexPage.write d) := by
    intro d
    have hroute : Route.ofPath? ['/'] = some .index := by decide +kernel
    simp only [Service.respond, hpath, hroute, hmethod]
    rfl
  obtain ⟨hholds, -⟩ := Catalog.ofSettings_eq_ok_iff.1 hc
  rw [hpage c]
  refine ⟨rfl, IndexPage.write_eq c, hholds.perm, hholds.ordered, ?_, IndexPage.filter_write c, ?_⟩
  · intro t ch hch
    exact Markup.Entities.not_mem_escape IndexPage.all_markupChars hch
  · intro d
    rw [hpage d]
    exact IndexPage.write_inj

/-- A name that looks like the end of its cell, of an engine that comes second, does not have the
page of one that looks like what is written for that name. -/
theorem index_of_catalog_imitation :
    let settings : List EngineSettings :=
      [⟨['b'], "</td>\n".toList, "/?q=".toList, none, none⟩,
        ⟨['a'], ['A'], ['/'], some ['d'], none⟩]
    let c : Catalog :=
      ⟨[⟨['a'], ['A'], ['/'], some ['d'], true⟩,
        ⟨['b'], "</td>\n".toList, "/?q=".toList, none, true⟩]⟩
    let d : Catalog :=
      ⟨[⟨['a'], ['A'], ['/'], some ['d'], true⟩,
        ⟨['b'], "&#60;/td&#62;\n".toList, "/?q=".toList, none, true⟩]⟩
    Catalog.ofSettings settings = .ok c ∧
      ∃ r, Request.parse "GET".toList ['/'] = .ok r ∧ r.method = "GET".toList ∧
        r.target.path = ['/'] ∧ (Service.respond c r).status = 200 ∧
        c.engines.Pairwise (fun e f => e.key < f.key) ∧
        (Service.respond d r).body ≠ (Service.respond c r).body := by
  intro settings c d
  have hc : Catalog.ofSettings settings = .ok c := by decide +kernel
  have hr : Request.parse "GET".toList ['/'] = .ok ⟨"GET".toList, ['/'], []⟩ := by decide +kernel
  obtain ⟨hstatus, -, -, hordered, -, -, hpages⟩ := index_of_catalog hc
    (r := ⟨"GET".toList, ['/'], []⟩) rfl rfl
  refine ⟨hc, _, hr, rfl, rfl, hstatus, hordered, fun hsame => ?_⟩
  exact absurd ((hpages d).1 hsame) (by decide +kernel)

end SearchLink.Http
