import LoadTest.Proofs.Json.Indented
import LoadTest.Proofs.Testdata.Persisting
import LoadTest.Proofs.Testdata.Restoring
/-!
# Snapshots as texts

A snapshot of a producer holds only saved texts of counters, and the text of a snapshot of texts
is read back as that snapshot.
-/

namespace LoadTest.Testdata

namespace Snapshot

open Json

/-- Nothing but texts is saved. -/
def OfTexts (s : Snapshot) : Prop :=
  ∀ scenario ∈ s.entries, ∀ saved ∈ scenario.2.entries, ∃ t, saved.2 = .str t

variable {s : Snapshot}

/-- The text of a snapshot is read as the value that was written. -/
theorem OfTexts.reads_toJson (h : s.OfTexts) :
    Reads (shape maxLevels) (indentedChars 0 s.toJson) (.ok s.toJson) := by
  apply Shape.reads_dictOf (Shape.skipsBlanks_dictOf _)
  intro m hm
  obtain ⟨scenario, hscenario, rfl⟩ := List.mem_map.1 hm
  apply Shape.reads_dictOf Shape.skipsBlanks_any
  intro saved hsaved
  obtain ⟨t, ht⟩ := h scenario hscenario saved hsaved
  rw [ht, indentedChars_str]
  exact reads_str t _

/-- A snapshot is found in the value that was made of it. -/
theorem ofJson_toJson (s : Snapshot) : ofJson s.toJson = .ok s :=
  dictOf_map dictOf_asIs_ofDict s

/-- A snapshot of texts is read back from its text. -/
theorem OfTexts.ofText_toText (h : s.OfTexts) : ofText s.toText = .ok s := by
  have hparse : parseAs shape (Text.symbols s.toText) = .ok s.toJson := by
    rw [toText, indented, Text.symbols, String.toList_ofList]
    exact document_of_reads h.reads_toJson
  rw [ofText, decodeText, hparse]
  simp only [ofJson_toJson, Except.toOption]

end Snapshot

/-- A producer saves nothing but texts. -/
theorem Producer.ofTexts_snapshot (p : Producer) : p.snapshot.OfTexts := by
  intro scenario hscenario saved hsaved
  obtain ⟨t, -, ht⟩ := List.mem_filterMap.1 hscenario
  simp only [Option.map_eq_some_iff] at ht
  obtain ⟨values, hvalues, rfl⟩ := ht
  split at hvalues
  · cases hvalues
  · cases hvalues
    obtain ⟨source, -, hsource⟩ := List.mem_filterMap.1 hsaved
    obtain ⟨v, hv, rfl⟩ := Option.map_eq_some_iff.1 hsource
    rw [Source.initial?_eq, Option.map_eq_some_iff] at hv
    obtain ⟨c, -, rfl⟩ := hv
    exact ⟨c.saved, rfl⟩

/-- What a producer leaves behind is read back from its text. -/
theorem Producer.ofText_snapshot (p : Producer) :
    Snapshot.ofText p.snapshot.toText = .ok p.snapshot :=
  p.ofTexts_snapshot.ofText_toText

end LoadTest.Testdata
