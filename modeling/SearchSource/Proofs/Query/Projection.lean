import SearchSource.Query.Assembly
import SearchSource.Result.Flatten
import SearchSource.Proofs.Distinct
import SearchSource.Proofs.Text.Separated

/-! What a document asks for to get some attributes. Main statement:
`source_asks_for_attributes`. -/
namespace SearchSource.Assembly

/-- What to ask for to get an attribute: itself, or all there is under its first name. -/
inductive Asks : String → String → Prop
  | whole {path : String} (h : '.' ∉ path.toList) : Asks path path
  | inside {top rest : String} (h : '.' ∉ top.toList) : Asks (top ++ "." ++ rest) (top ++ ".*")

/-- The keys that an entry lets through: its own, and those that begin with what stands before a
star behind a point. -/
inductive LetsThrough : String → String → Prop
  | same {path : String} : LetsThrough path path
  | below {top rest : String} : LetsThrough (top ++ ".*") (top ++ "." ++ rest)

/-- Entries that ask for some attributes, for each of them and for nothing else. -/
structure Projects (paths entries : List String) : Prop where
  distinct : entries.Nodup
  covered : ∀ p ∈ paths, ∃ e ∈ entries, Asks p e
  asked : ∀ e ∈ entries, ∃ p ∈ paths, Asks p e
  /-- Before the first attribute that asks for an entry stand only attributes that ask for earlier
  entries. -/
  ordered : ∀ earlier e later, entries = earlier ++ e :: later →
    ∃ before p after, paths = before ++ p :: after ∧ Asks p e ∧
      ∀ q ∈ before, ∃ f ∈ earlier, Asks q f
  /-- An attribute is let through wherever it is the key of a row. -/
  rows : ∀ start (es : Entries Value), ∀ key ∈ (Flatten.flatten start es).keys, key ∈ paths →
    ∃ e ∈ entries, LetsThrough e key

theorem asks_sourcePath (path : String) : Asks path (sourcePath path) := by
  by_cases h : '.' ∈ path.toList
  · obtain ⟨top, rest, hpath, htop, hbreak⟩ := Text.exists_breakAt? h
    have hjoin : path = String.ofList top ++ "." ++ String.ofList rest := by
      rw [← String.ofList_toList (s := path), hpath]
      simp [← String.toList_inj]
    have hasked : sourcePath path = String.ofList top ++ ".*" := by
      unfold sourcePath
      rw [hbreak]
    rw [hasked, hjoin]
    exact .inside (by simpa using htop)
  · have hasked : sourcePath path = path := by
      unfold sourcePath
      rw [Text.breakAt?_eq_none.mpr h]
    rw [hasked]
    exact .whole h

/-- An attribute asks for one entry only. -/
theorem Asks.eq_sourcePath {path e : String} (h : Asks path e) : e = sourcePath path := by
  unfold sourcePath
  cases h with
  | whole h => rw [Text.breakAt?_eq_none.mpr h]
  | @inside top rest h =>
    have hpath : (top ++ "." ++ rest).toList = top.toList ++ '.' :: rest.toList := by simp
    rw [hpath, Text.breakAt?_append h]
    show top ++ ".*" = String.ofList top.toList ++ ".*"
    rw [String.ofList_toList]

/-- An entry, taken for an attribute, asks for itself. -/
theorem Asks.again {path e : String} (h : Asks path e) : Asks e e := by
  cases h with
  | whole h => exact .whole h
  | @inside top rest h =>
    have hentry : top ++ ".*" = top ++ "." ++ "*" := by rw [String.append_assoc]; rfl
    have hagain : Asks (top ++ "." ++ "*") (top ++ ".*") := .inside h
    rwa [← hentry] at hagain

theorem Asks.letsThrough {path e : String} (h : Asks path e) : LetsThrough e path := by
  cases h with
  | whole _ => exact .same
  | inside _ => exact .below

theorem source_eq (paths : List String) :
    source paths = if paths = [] then none else some (paths.map sourcePath).eraseDups := by
  have hfold : ∀ ps : List String,
      ps.foldl (fun acc p => if p ∈ acc then acc else acc ++ [p]) [] = ps.eraseDups := by
    intro ps
    induction ps using List.reverseRecOn with
    | nil => rfl
    | append_singleton ps p ih =>
      rw [List.foldl_concat, ih, eraseDups_snoc]
      simp only [List.mem_eraseDups]
  unfold source
  rw [hfold]
  simp only [List.isEmpty_iff]

theorem getD_source (paths : List String) :
    (source paths).getD [] = (paths.map sourcePath).eraseDups := by
  rw [source_eq]
  split
  · next h =>
    rw [h]
    rfl
  · rfl

theorem projects_eraseDups (paths : List String) :
    Projects paths (paths.map sourcePath).eraseDups := by
  have hcovered : ∀ p ∈ paths, ∃ e ∈ (paths.map sourcePath).eraseDups, Asks p e := fun p hp =>
    ⟨sourcePath p, List.mem_eraseDups.mpr (List.mem_map_of_mem hp), asks_sourcePath p⟩
  refine ⟨nodup_eraseDups _, hcovered, ?asked, ?ordered, ?rows⟩
  case asked =>
    intro e he
    obtain ⟨p, hp, rfl⟩ := List.mem_map.mp (List.mem_eraseDups.mp he)
    exact ⟨p, hp, asks_sourcePath p⟩
  case ordered =>
    intro earlier e later hentries
    obtain ⟨before, after, hmap, hbefore⟩ := exists_first_of_eraseDups hentries
    obtain ⟨ps, qs, rfl, rfl, htail⟩ := List.map_eq_append_iff.mp hmap
    obtain ⟨p, qs, rfl, rfl, -⟩ := List.map_eq_cons_iff.mp htail
    refine ⟨ps, p, qs, rfl, asks_sourcePath p, fun q hq => ⟨sourcePath q, ?_, asks_sourcePath q⟩⟩
    rw [← hbefore, List.mem_eraseDups]
    exact List.mem_map_of_mem hq
  case rows =>
    intro start es key _ hkey
    obtain ⟨e, he, hasks⟩ := hcovered key hkey
    exact ⟨e, he, hasks.letsThrough⟩

/-- What asks for some attributes asks for itself. -/
theorem Projects.map_sourcePath {paths entries : List String} (h : Projects paths entries) :
    entries.map sourcePath = entries := by
  conv_rhs => rw [← List.map_id entries]
  refine List.map_congr_left fun e he => ?_
  obtain ⟨p, -, hasks⟩ := h.asked e he
  exact hasks.again.eq_sourcePath.symm

/-- Nothing is left out only if no attribute is given. Otherwise each attribute is asked for, once
and in the order of first occurrence, and nothing else; asking again changes nothing; and of two
lists of attributes the second adds what the first does not ask for. -/
theorem source_asks_for_attributes (paths : List String) :
    (source paths = none ↔ paths = []) ∧
      (∀ entries, source paths = some entries →
        Projects paths entries ∧ source entries = some entries) ∧
      ∀ more, (source (paths ++ more)).getD [] =
        (source paths).getD [] ++ ((source more).getD []).filter (· ∉ (source paths).getD []) := by
  refine ⟨?none, ?some, ?more⟩
  case none =>
    rw [source_eq]
    split <;> simp [*]
  case some =>
    intro entries h
    rw [source_eq] at h
    split at h
    · cases h
    · next hne =>
      obtain rfl := Option.some.inj h
      have hprojects := projects_eraseDups paths
      obtain ⟨p, hp⟩ := List.exists_mem_of_ne_nil paths hne
      obtain ⟨e, he, -⟩ := hprojects.covered p hp
      refine ⟨hprojects, ?_⟩
      rw [source_eq, if_neg (List.ne_nil_of_mem he), hprojects.map_sourcePath,
        eraseDups_of_nodup hprojects.distinct]
  case more =>
    intro more
    simp only [getD_source, List.map_append]
    exact eraseDups_append_eq _ _

/-- Attributes of which two have the same first name, one is an outermost object itself, and one has
an empty name. -/
def playerPaths : List String := ["team.id", "name", "team", "team.coach.name", ".note", "name"]

theorem source_asks_for_playerPaths :
    source playerPaths = some ["team.*", "name", "team", ".*"] ∧
      Projects playerPaths ["team.*", "name", "team", ".*"] ∧
      source ["team.*", "name", "team", ".*"] = some ["team.*", "name", "team", ".*"] := by
  have hsource : source playerPaths = some ["team.*", "name", "team", ".*"] := by decide +kernel
  obtain ⟨-, hsome, -⟩ := source_asks_for_attributes playerPaths
  exact ⟨hsource, hsome _ hsource⟩

end SearchSource.Assembly
