import SearchSource.Proofs.Text.Separated
import SearchSource.Query.Options
import SearchSource.Settings.Environment

/-! Lists written in one text with commas, as settings and boosts have them. Main statement:
`commaList_reads_items`. -/
namespace SearchSource.Text

/-! ### Items -/

/-- A text that can stand as it is between two commas: it is not empty, has no comma, and no blank
at its ends. -/
structure IsItem (s : String) : Prop where
  nonempty : s ≠ ""
  whole : ',' ∉ s.toList
  bare : BareEnds isBlank s.toList

theorem isItem_of_mem_commaList {s : String} : ∀ i ∈ commaList s, IsItem i := by
  intro i hi
  obtain ⟨hmem, hne⟩ := List.mem_filter.mp hi
  obtain ⟨_, hsplit, rfl⟩ := List.mem_map.mp hmem
  obtain ⟨piece, hpiece, rfl⟩ := List.mem_map.mp hsplit
  have hstrip : (strip (String.ofList piece)).toList = trim isBlank piece := by
    rw [strip, String.toList_ofList, String.toList_ofList]
  refine ⟨of_decide_eq_true hne, ?_, ?_⟩
  · rw [hstrip]
    exact fun hcomma => not_mem_of_mem_pieces piece hpiece (mem_of_mem_trim hcomma)
  · rw [hstrip]
    exact bareEnds_trim

theorem IsItem.strip_eq {s : String} (h : IsItem s) : strip s = s := by
  rw [strip, trim_of_bareEnds h.bare, String.ofList_toList]

/-- A comma between two texts ends an item, whatever stands around it. -/
theorem commaList_append (a b : String) :
    commaList (a ++ "," ++ b) = commaList a ++ commaList b := by
  have hsplit : splitAt ',' (a ++ "," ++ b) = splitAt ',' a ++ splitAt ',' b :=
    splitAt_append ',' a b
  rw [commaList, hsplit, List.map_append, List.filter_append, commaList, commaList]

theorem commaList_intercalate {items : List String} (h : ∀ i ∈ items, IsItem i) :
    commaList (",".intercalate items) = items := by
  by_cases hne : items = []
  · subst hne
    rfl
  · have hsplit : splitAt ',' (",".intercalate items) = items :=
      splitAt_intercalate hne fun i hi => (h i hi).whole
    have hstrip : items.map strip = items := by
      conv_rhs => rw [← List.map_id items]
      exact List.map_congr_left fun i hi => (h i hi).strip_eq
    rw [commaList, hsplit, hstrip, List.filter_eq_self]
    exact fun i hi => decide_eq_true (h i hi).nonempty

/-! ### Readers -/

theorem coerce_of_listed {a : Annotation}
    (h : Environment.startsWith "list" a.typeName || Environment.startsWith "tuple" a.typeName)
    (variableName s : String) :
    Environment.coerce variableName s a = .ok (.list ((commaList s).map .text)) := by
  have hne : ∀ type ∈ ["bool", "int", "float"], a.typeName ≠ type := by
    intro type htype heq
    have hplain : ∀ type ∈ ["bool", "int", "float"],
      (Environment.startsWith "list" type || Environment.startsWith "tuple" type) = false := by
        decide
    rw [heq, hplain type htype] at h
    cases h
  unfold Environment.coerce
  dsimp only
  rw [if_neg (hne _ (by decide)), if_neg (hne _ (by decide)), if_neg (hne _ (by decide)), if_pos h]

theorem ofConfig_boost {s : String} (h : s ≠ "") :
    QueryOptions.ofConfig [("boost", .text s)] = .ok ⟨some (commaList s), none, none⟩ := by
  have hboost : QueryOptions.boostOf (.text s) = some (commaList s) :=
    if_pos (by simpa [Value.holds] using h)
  have hconfig : QueryOptions.ofConfig [("boost", .text s)] =
    .ok ⟨QueryOptions.boostOf (.text s), none, none⟩ := rfl
  rw [hconfig, hboost]

/-- A setting that is a list and a boost have the same items of a text, all of which could be
written there. A comma between two texts separates their items, and items that are joined are read
back. -/
theorem commaList_reads_items :
    (∀ (a : Annotation) (variableName s : String),
      Environment.startsWith "list" a.typeName || Environment.startsWith "tuple" a.typeName →
      Environment.coerce variableName s a = .ok (.list ((commaList s).map .text))) ∧
    (∀ s, s ≠ "" → QueryOptions.ofConfig [("boost", .text s)] =
      .ok ⟨some (commaList s), none, none⟩) ∧
    (∀ s, ∀ i ∈ commaList s, IsItem i) ∧
    (∀ a b, commaList (a ++ "," ++ b) = commaList a ++ commaList b) ∧
    ∀ items, (∀ i ∈ items, IsItem i) → commaList (",".intercalate items) = items :=
  ⟨fun _ variableName s h => coerce_of_listed h variableName s, fun _ => ofConfig_boost,
    fun _ => isItem_of_mem_commaList, commaList_append, fun _ => commaList_intercalate⟩

/-- Two items, one with a blank inside, and an empty one between them. -/
theorem commaList_reads_items_boost :
    Environment.coerce "NODES" "name ^5 , ,description," (.written "list[str]") =
        .ok (.list [.text "name ^5", .text "description"]) ∧
      QueryOptions.ofConfig [("boost", .text "name ^5 , ,description,")] =
        .ok ⟨some ["name ^5", "description"], none, none⟩ ∧
      commaList (",".intercalate ["name ^5", "description"]) = ["name ^5", "description"] := by
  have hitems : commaList "name ^5 , ,description," = ["name ^5", "description"] := by decide
  obtain ⟨hsetting, hboost, hwritten, -, hjoined⟩ := commaList_reads_items
  have hcoerce := hsetting (.written "list[str]") "NODES" "name ^5 , ,description," rfl
  have hoptions := hboost "name ^5 , ,description," (by decide)
  have hall := hwritten "name ^5 , ,description,"
  rw [hitems] at hcoerce hoptions hall
  exact ⟨hcoerce, hoptions, hjoined _ hall⟩

end SearchSource.Text
