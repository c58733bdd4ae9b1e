import CatalogDesk.Proofs.Table.Arrangement
import CatalogDesk.Proofs.Text.LowerCase

/-! # Searching a table for what can be read there

    Somebody reads a text in a table and searches for a part of it, letter by letter.  The
    table compares term and text in lower case, so that it finds more than what was typed.
    But term and text are brought to lower case each on its own, and so it may also find
    less.

    Main result: `findsLiteral_iff` says for which terms a table finds every record that
    contains them as typed: those without a capital sigma at their ends. -/

namespace CatalogDesk

variable {α : Type}

namespace TableRequest

/-- The view has the records that are kept. -/
theorem Follows.mem_view_iff {t : Table α} {q : TableRequest α} (h : Follows t q) (i : Nat) :
    i ∈ t.view ↔ ∃ r, q.records[i]? = some r ∧ q.Keeps r := by
  rw [h.view, List.mem_map]
  constructor
  · rintro ⟨⟨j, r⟩, hsorted, rfl⟩
    exact ⟨r, mem_kept.mp (List.mem_mergeSort.mp hsorted)⟩
  · rintro ⟨r, hrecord, hkeeps⟩
    have hkept : (i, r) ∈ q.kept := mem_kept.mpr ⟨hrecord, hkeeps⟩
    exact ⟨(i, r), List.mem_mergeSort.mpr hkept, rfl⟩

/-- A search shows the records that mention the term. -/
theorem Follows.mem_view_setSearch_iff {t : Table α} {q : TableRequest α} (h : Follows t q)
    (term : String) (i : Nat) :
    i ∈ (t.setSearch term).view ↔
      ∃ r, t.records[i]? = some r ∧ (term = "" ∨ (t.encode r).Mentions term) := by
  have hsearched : Follows (t.setSearch term) (q.step (.setSearch term)) :=
    h.step (.setSearch term)
  rw [hsearched.mem_view_iff, h.records, h.encode]
  rfl

end TableRequest

namespace Table

open TableRequest

/-- Whatever was done to a table before: does a search for the term show each record that has
    a field in whose text the term stands as typed? -/
def FindsLiteral (term : String) : Prop :=
  ∀ (α : Type) (columns : List (Column α)) (encode : α → Json) (pageSize : Nat)
    (inputs : List (TableInput α)),
    let t := (Table.new columns encode pageSize).after inputs
    ∀ i r members name value, t.records[i]? = some r → t.encode r = .object members →
      (name, value) ∈ members → term.toList <:+: (cellText value).toList →
      i ∈ (t.setSearch term).view

theorem mentions_iff (term text : String) :
    (Text.toLower term).toList <:+: (Text.toLower text).toList ↔
      Text.lowerFrom [] term.toList <:+: Text.lowerFrom [] text.toList := by
  simp only [Text.toLower, String.toList_ofList]

theorem findsLiteral_of_not_edge {term : String} (hedge : ¬ Text.HasEdgeSigma term.toList) :
    FindsLiteral term := by
  intro α columns encode pageSize inputs t i r members name value hrecord hencode hmember hliteral
  have hfollows := (follows_new columns encode pageSize).after inputs
  rw [hfollows.mem_view_setSearch_iff]
  refine ⟨r, hrecord, .inr ⟨value, ?_, ?_⟩⟩
  · rw [hencode]
    exact List.mem_map_of_mem hmember
  · rw [mentions_iff]
    exact (Text.lower_infix_iff _).mpr hedge _ hliteral

/-- One record is enough to miss it. -/
theorem not_findsLiteral_of_hidden {term text : String} (hterm : term ≠ "")
    (hliteral : term.toList <:+: text.toList)
    (hhidden : ¬ Text.lowerFrom [] term.toList <:+: Text.lowerFrom [] text.toList) :
    ¬ FindsLiteral term := by
  intro hfinds
  let record : Json := .object [("text", .text text)]
  have hshown := hfinds Json [] id 1 [.setRecords [record]] 0 record [("text", .text text)]
    "text" (.text text) rfl rfl List.mem_cons_self hliteral
  have hfollows := (follows_new (α := Json) [] id 1).after [.setRecords [record]]
  rw [hfollows.mem_view_setSearch_iff] at hshown
  obtain ⟨r, hrecord, hempty | ⟨part, hpart, hinfix⟩⟩ := hshown
  · exact hterm hempty
  · obtain rfl : record = r := Option.some.inj hrecord
    obtain rfl : part = .text text := List.mem_singleton.mp hpart
    rw [mentions_iff] at hinfix
    exact hhidden hinfix

/-- Whatever was done to a table before, and whatever its records are: a search for a term
    shows all records that have a field in whose text the term stands as typed, if and only
    if the term has no capital sigma at its ends. -/
theorem findsLiteral_iff (term : String) :
    FindsLiteral term ↔ ¬ Text.HasEdgeSigma term.toList := by
  constructor
  · intro hfinds
    rw [← Text.lower_infix_iff]
    intro text hliteral
    by_contra hhidden
    have hterm : term ≠ "" := by
      rintro rfl
      exact hhidden List.nil_infix
    rw [← String.toList_ofList (l := text)] at hliteral hhidden
    exact not_findsLiteral_of_hidden hterm hliteral hhidden hfinds
  · exact findsLiteral_of_not_edge

/-- The road is not found in the road surface. -/
theorem not_findsLiteral_roadSurface : ¬ FindsLiteral "ΟΔΟΣ" := by
  have hterm : Text.lowerFrom [] "ΟΔΟΣ".toList = "οδος".toList := by decide +kernel
  have htext : Text.lowerFrom [] "ΟΔΟΣΤΡΩΜΑ".toList = "οδοστρωμα".toList := by decide +kernel
  have hliteral : "ΟΔΟΣ".toList <:+: "ΟΔΟΣΤΡΩΜΑ".toList := by decide +kernel
  have hhidden : ¬ "οδος".toList <:+: "οδοστρωμα".toList := by decide +kernel
  rw [← hterm, ← htext] at hhidden
  exact not_findsLiteral_of_hidden (by decide) hliteral hhidden

end Table

end CatalogDesk
