import SearchSource.Proofs.Query.Assembly

/-! The pages of a request: they are of one size, and each begins where the one before it ends. Main
statement: `pages_tile`. -/
namespace SearchSource

/-- The limits under which a request has pages: a positive number of hits, or as many as there
are. -/
inductive Value.PageLimit : Value → Prop
  | number {n : Int} (positive : 0 < n) : PageLimit (.int n)
  | unlimited : PageLimit (.text "unlimited")
  | missing : PageLimit .null

def SearchRequest.onPage (page : Value) (r : SearchRequest) : SearchRequest :=
  { r with page := page }

namespace SearchDocument

/-- The place of the first hit that a document asks for, and the place behind the last one. -/
def span? (d : SearchDocument) : Option (Int × Int) :=
  match d.body.lookup "from", d.body.lookup "size" with
  | some (.int start), some (.int size) => some (start, start + size)
  | _, _ => none

/-- Whether the hit at a place is one that a document asks for. -/
def AsksFor (d : SearchDocument) (i : Int) : Prop := ∃ a b, d.span? = some (a, b) ∧ a ≤ i ∧ i < b

theorem asksFor_iff {d : SearchDocument} {a b : Int} (h : d.span? = some (a, b)) (i : Int) :
    d.AsksFor i ↔ a ≤ i ∧ i < b := by
  simp [AsksFor, h]

/-- Documents for the pages from the first on, of `size` hits each: no two of them ask for one hit,
each begins where the one before it ends, and together the first `n` ask for the hits below `n *
size`. -/
structure Tiling (size : Int) (pages : Nat → SearchDocument) : Prop where
  sized : ∀ p, 1 ≤ p → (pages p).body.lookup "size" = some (.int size)
  disjoint : ∀ p q, 1 ≤ p → 1 ≤ q → p ≠ q → ∀ i, ¬ ((pages p).AsksFor i ∧ (pages q).AsksFor i)
  consecutive : ∀ p, 1 ≤ p → ∃ a b c, (pages p).span? = some (a, b) ∧
    (pages (p + 1)).span? = some (b, c)
  cover : ∀ (n : Nat) (i : Int), (∃ p, 1 ≤ p ∧ p ≤ n ∧ (pages p).AsksFor i) ↔ 0 ≤ i ∧ i < n * size

section Tiling

variable {size : Int} {pages : Nat → SearchDocument}
  (hspan : ∀ p : Nat, 1 ≤ p → (pages p).span? = some ((p - 1) * size, p * size))

include hspan

/-- How often the size goes into a place tells the page that it is on. -/
theorem asksFor_iff_ediv (positive : 0 < size) {p : Nat} (hp : 1 ≤ p) (i : Int) :
    (pages p).AsksFor i ↔ i / size = p - 1 := by
  have hlow : (p - 1 : Int) * size ≤ i ↔ (p - 1 : Int) ≤ i / size :=
    (Int.le_ediv_iff_mul_le positive).symm
  have hhigh : i < (p : Int) * size ↔ i / size < p := (Int.ediv_lt_iff_lt_mul positive).symm
  rw [asksFor_iff (hspan p hp), hlow, hhigh]
  omega

theorem tiling_of_spans (positive : 0 < size)
    (hsize : ∀ p, 1 ≤ p → (pages p).body.lookup "size" = some (.int size)) : Tiling size pages where
  sized := hsize
  disjoint p q hp hq hne i := by
    rw [asksFor_iff_ediv hspan positive hp, asksFor_iff_ediv hspan positive hq]
    omega
  consecutive p hp := ⟨_, _, _, hspan p hp, by simpa using hspan (p + 1) (Nat.le_add_left 1 p)⟩
  cover n i := by
    rw [← Int.ediv_nonneg_iff_of_pos positive, ← Int.ediv_lt_iff_lt_mul positive]
    constructor
    · rintro ⟨p, hp, hn, hi⟩
      rw [asksFor_iff_ediv hspan positive hp] at hi
      omega
    · rintro ⟨hnonneg, hlt⟩
      -- the pages count from one
      have hfirst : 1 ≤ (i / size).toNat + 1 := Nat.le_add_left 1 _
      refine ⟨(i / size).toNat + 1, hfirst, by omega,
        (asksFor_iff_ediv hspan positive hfirst i).mpr ?_⟩
      omega

end Tiling

end SearchDocument

namespace Assembly
open SearchDocument

theorem pageSize_pos {limit : Value} (h : limit.PageLimit) : 0 < pageSize limit := by
  cases h with
  | number positive => exact positive
  | unlimited => decide
  | missing => decide

section Start

variable (r : SearchRequest)

theorem startOf_page {p : Nat} (hp : 1 ≤ p) :
    startOf (r.onPage (.int p)) = .ok (some (.int ((p - 1) * pageSize r.limit))) := by
  have hholds : (Value.int p).holds = true := decide_eq_true (by omega)
  simp only [startOf, SearchRequest.onPage, hholds, if_true]
  rfl

theorem startOf_without {page : Value} (h : page.holds = false) :
    startOf (r.onPage page) = .ok none := by
  simp only [startOf, SearchRequest.onPage, h, Bool.false_eq_true, if_false]
  rfl

end Start

/-- What a request asks for apart from its page does not depend on the page. -/
theorem assemble_onPage {r : SearchRequest} {d : SearchDocument} (h : assemble r = .ok d) :
    ∃ filter forest order, ∀ page start, startOf (r.onPage page) = .ok start →
      assemble (r.onPage page) = .ok { d with body := bodyOf r start filter forest order } := by
  obtain ⟨_, filter, forest, order, -, hfilter, hforest, horder, rfl⟩ := assemble_eq_ok.mp h
  exact ⟨filter, forest, order, fun page start hstart =>
    assemble_eq_ok.mpr ⟨start, filter, forest, order, hstart, hfilter, hforest, horder, rfl⟩⟩

theorem countOnly_of_assemble {r : SearchRequest} {d : SearchDocument} (h : assemble r = .ok d) :
    countOnly r = d.isCountOnly := by
  obtain ⟨_, _, _, _, -, -, -, -, rfl⟩ := assemble_eq_ok.mp h
  by_cases hc : countOnly r <;> simp [isCountOnly, hc]

/-- Pages are documents of one size that tile the hits, each page's document is any other's with its
own start, and the document without a page is that of the first page without its start. -/
theorem pages_tile {r : SearchRequest} {d : SearchDocument} (h : assemble r = .ok d)
    (hits : d.isCountOnly = false)
    (limit : r.limit.PageLimit) :
    ∃ size pages whole, 0 < size ∧
      (∀ p : Nat, 1 ≤ p → assemble (r.onPage (.int p)) = .ok (pages p)) ∧
      (∀ page : Value, page.holds = false → assemble (r.onPage page) = .ok whole) ∧
      Tiling size pages ∧
      (∀ p q : Nat, 1 ≤ p → 1 ≤ q →
        pages q = { pages p with body := (pages p).body.put "from" (.int ((q - 1) * size)) }) ∧
      (pages 1).body.lookup "from" = some (.int 0) ∧
      whole = { pages 1 with body := (pages 1).body.drop "from" } := by
  obtain ⟨filter, forest, order, hparts⟩ := assemble_onPage h
  have hcount : countOnly r = false := (countOnly_of_assemble h).trans hits
  have hpositive := pageSize_pos limit
  generalize hsize : pageSize r.limit = size at hpositive
  let document (start : Option Value) : SearchDocument :=
    { d with body := bodyOf r start filter forest order }
  let pages (p : Nat) : SearchDocument := document (some (.int ((p - 1) * size)))
  have hsized (p : Nat) : (pages p).body.lookup "size" = some (.int size) := by
    rw [lookup_size, hcount, hsize]
    rfl
  have hfrom (p : Nat) : (pages p).body.lookup "from" = some (.int ((p - 1) * size)) :=
    lookup_from ..
  have hspan (p : Nat) : (pages p).span? = some ((p - 1) * size, p * size) := by
    have hend : ((p - 1) * size + size : Int) = p * size := by rw [Int.sub_mul]; omega
    simp only [span?, hfrom, hsized, hend]
  refine ⟨size, pages, document none, hpositive, ?assembled, ?without,
    tiling_of_spans (fun p _ => hspan p) hpositive fun p _ => hsized p, ?others, ?first, ?dropped⟩
  case assembled => exact fun p hp => hparts _ _ (hsize ▸ startOf_page r hp)
  case without => exact fun page hpage => hparts _ _ (startOf_without r hpage)
  case others => exact fun p q _ _ => congrArg (fun b => { d with body := b }) (put_from ..).symm
  case first => simpa using hfrom 1
  case dropped => exact congrArg (fun b => { d with body := b }) (drop_from ..).symm

/-- Aggregates beside ten hits a page, asked for without a page. -/
def townsAndCountries : SearchRequest where
  index := "towns"
  filter := [[⟨"depth", .text "greater", .int 5⟩]]
  search := none
  options := .default
  ownQuery := none
  aggregates := [⟨.text "count", ["country"], none, .null, []⟩]
  order := [⟨"name", .text "desc"⟩]
  limit := .int 10
  page := .null
  attributes := ["name", "team.id"]
  explain := none

theorem pages_tile_townsAndCountries :
    ∃ d, assemble townsAndCountries = .ok d ∧ d.isCountOnly = false ∧
      townsAndCountries.limit.PageLimit ∧
      ∃ pages, (∀ p : Nat, 1 ≤ p → assemble (townsAndCountries.onPage (.int p)) = .ok (pages p)) ∧
        Tiling 10 pages ∧ (pages 3).span? = some (20, 30) ∧
          d.body = (pages 3).body.drop "from" := by
  have limit : townsAndCountries.limit.PageLimit := .number (by decide)
  refine ⟨_, rfl, rfl, limit, ?_⟩
  obtain ⟨size, pages, -, -, hassembled, -, tiling, -⟩ :=
    pages_tile (r := townsAndCountries) rfl rfl limit
  have hthird : pages 3 = _ := Except.ok.inj (hassembled 3 (by decide)).symm
  have hsize : some (Value.int size) = some (.int 10) := by
    rw [← tiling.sized 3 (by decide), hthird]
    rfl
  cases hsize
  refine ⟨pages, hassembled, tiling, ?_, ?_⟩ <;> rw [hthird] <;> rfl

end Assembly
end SearchSource
