import SourceSig.Discovery
import SourceSig.Proofs.ByteOrder
import SourceSig.Proofs.ChildPaths
import Mathlib.Data.List.Nodup
import Mathlib.Data.String.Basic

/-!
# Which files are discovered

A file under a target is named by a route, the names on the way from the target to it.
`DiscoveryRules.Selects` says which routes are taken, without the walk: at the end lies a file with
the wanted extension, and no name on the way is listed in the ignore file of the directory that
holds it. An ignored directory takes everything under it along.

The walk goes into the entries of a directory in the order of their names and leaves out those that
are ignored. `walk_eq_map` is the induction over the tree: the paths that are found are those of the
routes that are taken (`Takes`), and the routes come in their order.

`discover_of_dir` : the files of a directory are those at the selected routes, each of them once,
and in the order of the bytes of the names on the way.
-/

namespace SourceSig

/-! ## Runs at the ends of a text -/

namespace Text

variable {c : Char} {s t : List Char}

/-- What is left after a run of `c` at the front does not begin with `c`. -/
theorem dropWhile_eq_iff :
    s.dropWhile (· = c) = t ↔ ∃ k, s = List.replicate k c ++ t ∧ t.head? ≠ some c := by
  induction s with
  | nil =>
    constructor
    · rintro rfl
      exact ⟨0, rfl, by simp⟩
    · rintro ⟨k, hnil, -⟩
      exact (List.append_eq_nil_iff.mp hnil.symm).2.symm
  | cons d s ih =>
    by_cases hd : d = c
    · subst d
      rw [List.dropWhile_cons_of_pos (by simp), ih]
      constructor
      · rintro ⟨k, rfl, hhead⟩
        exact ⟨k + 1, rfl, hhead⟩
      · rintro ⟨k, hs, hhead⟩
        cases k with
        | zero => exact absurd (congrArg List.head? hs).symm hhead
        | succ k => exact ⟨k, (List.cons.inj hs).2, hhead⟩
    · rw [List.dropWhile_cons_of_neg (by simpa using hd)]
      constructor
      · rintro rfl
        exact ⟨0, rfl, by simpa using hd⟩
      · rintro ⟨k, hs, -⟩
        cases k with
        | zero => exact hs
        | succ k => exact absurd (List.cons.inj hs).1 hd

/-- What is left before a run of `c` at the end does not end with `c`. -/
theorem dropEndWhile_eq_iff :
    dropEndWhile (· = c) s = t ↔ ∃ k, s = t ++ List.replicate k c ∧ t.getLast? ≠ some c := by
  rw [dropEndWhile, List.reverse_eq_iff, dropWhile_eq_iff]
  refine exists_congr fun k => ?_
  rw [List.head?_reverse, List.reverse_eq_iff, List.reverse_append, List.reverse_replicate,
    List.reverse_reverse]

end Text

/-! ## File trees -/

namespace FileTree

/-- A tree whose directories have entries with names of their own, each of them a name. -/
inductive Proper : FileTree → Prop
  | file (content : Text.Bytes) : Proper (.file content)
  | dir {entries : List (String × FileTree)} : (entries.map Prod.fst).Nodup →
      (∀ e ∈ entries, Path.IsName e.1) → (∀ e ∈ entries, Proper e.2) → Proper (.dir entries)

/-- What lies at the end of a route. -/
def descend : List String → FileTree → Option FileTree
  | [], t => some t
  | name :: route, t => (t.child? name).bind (descend route)

variable {entries : List (String × FileTree)} {name : String} {t u : FileTree}

/-- A child of a folder is one of its entries. -/
theorem mem_of_child? (h : (dir entries).child? name = some t) : (name, t) ∈ entries := by
  obtain ⟨e, he, rfl⟩ := Option.map_eq_some_iff.mp h
  have hname : e.1 = name := by simpa using List.find?_some he
  exact hname ▸ List.mem_of_find?_eq_some he

/-- Where no name comes twice, each entry of a folder is its child of that name. -/
theorem child?_of_mem (hnodup : (entries.map Prod.fst).Nodup) (h : (name, t) ∈ entries) :
    (dir entries).child? name = some t := by
  have hfind : entries.find? (·.1 == name) = some (name, t) := by
    induction entries with
    | nil => cases h
    | cons e entries ih =>
      obtain ⟨hnew, hnodup⟩ := List.nodup_cons.mp hnodup
      rcases List.mem_cons.mp h with rfl | h
      · simp
      · have hne : e.1 ≠ name := by
          rintro rfl
          exact hnew (List.mem_map.mpr ⟨_, h, rfl⟩)
        rw [List.find?_cons_of_neg (by simpa using hne), ih hnodup h]
  rw [child?, hfind]
  rfl

theorem text_file (content : Text.Bytes) : (file content).text =
    match Text.decode? content with
    | some text => .ok text
    | none => .error .notUtf8 :=
  rfl

theorem text_dir (entries : List (String × FileTree)) :
    (dir entries).text = .error .isADirectory :=
  rfl

/-- A route through a proper tree has names only. -/
theorem Proper.isName_of_descend {route : List String} (ht : t.Proper)
    (h : descend route t = some u) : ∀ name ∈ route, Path.IsName name := by
  induction route generalizing t with
  | nil => simp
  | cons name route ih =>
    obtain ⟨v, hv, hu⟩ := Option.bind_eq_some_iff.mp h
    cases ht with
    | file content => cases hv
    | dir _ hnames hentries =>
      have hmem := mem_of_child? hv
      exact List.forall_mem_cons.mpr ⟨hnames _ hmem, ih (hentries _ hmem) hu⟩

end FileTree

/-! ## The rules -/

/-- The line lists the name: without blanks around it, it is no comment, and it is the name with any
number of slashes after it. -/
def ListsName (line : List Char) (name : String) : Prop :=
  let entry := (Text.trim (String.ofList line)).toList
  entry ≠ [] ∧ entry.head? ≠ some '#' ∧ ∃ k, entry = name.toList ++ List.replicate k '/'

namespace DiscoveryRules

variable (rules : DiscoveryRules)

/-- The ignore file of a directory lists the name. -/
def Ignores (dir : FileTree) (name : String) : Prop :=
  ∃ content text, dir.child? rules.ignoreFile = some (.file content) ∧
    Text.decode? content = some text ∧ ∃ line ∈ Text.lines text.toList, ListsName line name

/-- No name on the route is ignored in the directory that holds it. -/
def Admits (t : FileTree) (route : List String) : Prop :=
  ∀ before name after, route = before ++ name :: after →
    ∀ dir, t.descend before = some dir → ¬rules.Ignores dir name

/-- The name ends in a dot and the extension, which is taken without the dots at its front. -/
def HasExtension (name : String) : Prop :=
  ∃ k extension, rules.extension.toList = List.replicate k '.' ++ extension ∧
    extension.head? ≠ some '.' ∧ '.' :: extension <:+ name.toList

/-- A route to a file that is to be discovered. -/
structure Selects (t : FileTree) (route : List String) : Prop where
  isFile : ∃ content, t.descend route = some (.file content)
  hasExtension : ∃ name, route.getLast? = some name ∧ rules.HasExtension name
  admits : rules.Admits t route

variable {rules}

/-- The suffix that is looked for is a dot and the extension. -/
theorem suffix_isSuffixOf_iff {name : String} :
    rules.suffix.isSuffixOf name.toList ↔ rules.HasExtension name := by
  rw [List.isSuffixOf_iff_suffix, suffix]
  constructor
  · intro h
    obtain ⟨k, hk, hhead⟩ := Text.dropWhile_eq_iff.mp (rfl : rules.extension.toList.dropWhile _ = _)
    exact ⟨k, _, hk, hhead, h⟩
  · rintro ⟨k, extension, hk, hhead, h⟩
    rwa [Text.dropWhile_eq_iff.mpr ⟨k, hk, hhead⟩]

/-! ## Ignored names -/

/-- A line excludes the one name that it lists. -/
theorem ignoredName?_eq_some_iff {line : List Char} {name : String} (h : Path.IsName name) :
    ignoredName? line = some name ↔ ListsName line name := by
  have hlast : name.toList.getLast? ≠ some '/' := fun heq =>
    h.2.2.2 (List.mem_of_mem_getLast? heq)
  unfold ignoredName? ListsName
  generalize (Text.trim (String.ofList line)).toList = entry
  have hslashes : Text.dropEndWhile (· = '/') entry = name.toList ↔
      ∃ k, entry = name.toList ++ List.replicate k '/' := by
    simp [Text.dropEndWhile_eq_iff, hlast]
  dsimp only
  rw [← hslashes]
  split
  · simp
  · next hcomment =>
    have hhead : entry.head? ≠ some '#' := by
      intro heq
      obtain ⟨rest, rfl⟩ := List.head?_eq_some_iff.mp heq
      exact hcomment rest rfl
    split
    · next hnone => simp [hnone, h.toList_ne_nil.symm]
    · next hnone =>
      have hne : entry ≠ [] := by
        rintro rfl
        exact hnone rfl
      simp [hne, hhead, ← String.toList_inj]

/-- The names that a list excludes are those that one of its lines lists. -/
theorem mem_ignoredNames_iff {text name : String} (h : Path.IsName name) :
    name ∈ ignoredNames text ↔ ∃ line ∈ Text.lines text.toList, ListsName line name := by
  simp only [ignoredNames, List.mem_filterMap, ignoredName?_eq_some_iff h]

/-- Looking a name up in a folder finds the child of that name. -/
theorem lookup_eq_of_isName {name : String} (h : Path.IsName name)
    (entries : List (String × FileTree)) (above : List FileTree) :
    FileTree.Place.lookup ⟨.dir entries, above⟩ name =
      match (FileTree.dir entries).child? name with
      | some t => .ok ⟨t, .dir entries :: above⟩
      | none => .error (FileTree.pathCause name (FileTree.missingCause name)) := by
  simp only [FileTree.Place.lookup, h.parts_eq, h.1, FileTree.follow, FileTree.isDir,
    h.component?_eq, String.ofList_toList]
  cases (FileTree.dir entries).child? name <;> rfl

/-- The names that a folder excludes are those that its own list excludes. -/
theorem mem_ignoredIn_iff {entries : List (String × FileTree)} {above : List FileTree}
    {name : String} (hrules : Path.IsName rules.ignoreFile) (h : Path.IsName name) :
    name ∈ rules.ignoredIn ⟨.dir entries, above⟩ ↔ rules.Ignores (.dir entries) name := by
  unfold ignoredIn Ignores
  rw [lookup_eq_of_isName hrules]
  cases (FileTree.dir entries).child? rules.ignoreFile with
  | none => simp
  | some t =>
    cases t with
    | dir others => simp [FileTree.text_dir]
    | file content =>
      cases hdecode : Text.decode? content with
      | none => simp [FileTree.text_file, hdecode]
      | some text => simp [FileTree.text_file, hdecode, mem_ignoredNames_iff h]

/-! ## Routes that are taken -/

variable {entries : List (String × FileTree)} {path : String} {above : List FileTree}

/-- A route is admitted if its first name is, and the rest of it is so below. -/
theorem admits_cons_iff {t : FileTree} {name : String} {route : List String} :
    rules.Admits t (name :: route) ↔
      ¬rules.Ignores t name ∧ ∀ u, t.child? name = some u → rules.Admits u route := by
  constructor
  · intro h
    refine ⟨h [] name route rfl t rfl, fun u hu before next after hroute dir hdir => ?_⟩
    refine h (name :: before) next after (by rw [hroute]; rfl) dir ?_
    rw [FileTree.descend, hu]
    exact hdir
  · rintro ⟨hname, hrest⟩ before next after hroute dir hdir
    cases before with
    | nil =>
      obtain ⟨rfl, -⟩ := List.cons.inj hroute
      obtain rfl := Option.some.inj hdir
      exact hname
    | cons first before =>
      obtain ⟨rfl, rfl⟩ := List.cons.inj hroute
      obtain ⟨u, hu, hdir⟩ := Option.bind_eq_some_iff.mp hdir
      exact hrest u hu before next after rfl dir hdir

variable (rules) in
/-- The walk from a path takes the file at the end of a route. -/
structure Takes (path : String) (t : FileTree) (route : List String) : Prop where
  isFile : ∃ content, t.descend route = some (.file content)
  wants : rules.wants (route.foldl Path.child path)
  admits : rules.Admits t route

theorem not_takes_nil : ¬rules.Takes path (.dir entries) [] := by
  rintro ⟨⟨content, hfile⟩, -, -⟩
  cases hfile

/-- A route is taken into a folder by the child that its first name leads to. -/
theorem takes_cons_iff {t : FileTree} {name : String} {route : List String} :
    rules.Takes path t (name :: route) ↔ ∃ u, t.child? name = some u ∧
      ¬rules.Ignores t name ∧ rules.Takes (Path.child path name) u route := by
  constructor
  · rintro ⟨⟨content, hfile⟩, hwants, hadmits⟩
    obtain ⟨u, hu, hfile⟩ := Option.bind_eq_some_iff.mp hfile
    obtain ⟨hname, hrest⟩ := admits_cons_iff.mp hadmits
    exact ⟨u, hu, hname, ⟨content, hfile⟩, hwants, hrest u hu⟩
  · rintro ⟨u, hu, hname, ⟨content, hfile⟩, hwants, hadmits⟩
    refine ⟨⟨content, ?_⟩, hwants, admits_cons_iff.mpr ⟨hname, fun v hv => ?_⟩⟩
    · rw [FileTree.descend, hu]
      exact hfile
    · obtain rfl := Option.some.inj (hu.symm.trans hv)
      exact hadmits

/-- At a file the only route is the empty one, and the file has to have the extension. -/
theorem takes_file_iff {content : Text.Bytes} {route : List String} :
    rules.Takes path (.file content) route ↔ route = [] ∧ rules.wants path := by
  cases route with
  | nil =>
    constructor
    · rintro ⟨-, hwants, -⟩
      exact ⟨rfl, hwants⟩
    · rintro ⟨-, hwants⟩
      exact ⟨⟨content, rfl⟩, hwants, by simp [Admits]⟩
  | cons name route =>
    rw [takes_cons_iff]
    simp [FileTree.child?]

/-! ## The walk -/

variable (rules) in
/-- The entries of a directory that are gone into, in the order of their names. -/
def keptEntries (above : List FileTree) (entries : List (String × FileTree)) :
    List (String × FileTree) :=
  (entries.filter fun e => !(rules.ignoredIn ⟨.dir entries, above⟩).contains e.1).mergeSort
    fun e f => decide (e.1 ≤ f.1)

theorem walkEntries_eq_map (ignored : List String) (entries : List (String × FileTree)) :
    rules.walkEntries path above ignored entries =
      (entries.filter fun e => !ignored.contains e.1).map fun e =>
        (e.1, rules.walk (Path.child path e.1) above e.2) := by
  induction entries with
  | nil => rw [walkEntries]; rfl
  | cons e entries ih =>
    obtain ⟨name, t⟩ := e
    rw [walkEntries]
    split
    · next h => rw [ih, List.filter_cons_of_neg (by simpa using h)]
    · next h => rw [ih, List.filter_cons_of_pos (by simpa using h), List.map_cons]

/-- A folder gives what its entries give, in their order and without those that its list excludes.
-/
theorem walk_dir (path : String) (above : List FileTree) (entries : List (String × FileTree)) :
    rules.walk path above (.dir entries) = (rules.keptEntries above entries).flatMap fun e =>
      rules.walk (Path.child path e.1) (.dir entries :: above) e.2 := by
  rw [walk, walkEntries_eq_map, ← List.map_mergeSort (r := fun e f => decide (e.1 ≤ f.1))
    fun _ _ _ _ => rfl, List.map_map, List.flatMap_def]
  rfl

theorem mem_keptEntries_iff {e : String × FileTree} : e ∈ rules.keptEntries above entries ↔
    e ∈ entries ∧ e.1 ∉ rules.ignoredIn ⟨.dir entries, above⟩ := by
  simp [keptEntries]

/-- The entries of a folder are visited in the order of their names. -/
theorem pairwise_keptEntries (h : (entries.map Prod.fst).Nodup) :
    (rules.keptEntries above entries).Pairwise fun e f => e.1 < f.1 := by
  have hsorted : (rules.keptEntries above entries).Pairwise fun e f => e.1 ≤ f.1 := by
    refine (List.pairwise_mergeSort ?_ ?_ _).imp of_decide_eq_true
    · intro e f g hef hfg
      exact decide_eq_true (le_trans (of_decide_eq_true hef) (of_decide_eq_true hfg))
    · intro e f
      simpa using le_total e.1 f.1
  have hdistinct : (rules.keptEntries above entries).Pairwise fun e f => e.1 ≠ f.1 := by
    refine (List.mergeSort_perm _ _).pairwise_iff (fun h => Ne.symm h) |>.mpr ?_
    exact (List.pairwise_map.mp h).filter _
  exact hsorted.imp₂ (fun _ _ => lt_of_le_of_ne) hdistinct

/-- The routes that are taken from a directory lead on from the entries that are gone into. -/
theorem takes_dir_iff (hrules : Path.IsName rules.ignoreFile)
    (hnodup : (entries.map Prod.fst).Nodup) (hnames : ∀ e ∈ entries, Path.IsName e.1)
    (above : List FileTree) {route : List String} :
    rules.Takes path (.dir entries) route ↔ ∃ e ∈ rules.keptEntries above entries,
      ∃ rest, route = e.1 :: rest ∧ rules.Takes (Path.child path e.1) e.2 rest := by
  have hignored : ∀ e ∈ entries, e.1 ∈ rules.ignoredIn ⟨.dir entries, above⟩ ↔
      rules.Ignores (.dir entries) e.1 := fun e he => mem_ignoredIn_iff hrules (hnames e he)
  constructor
  · intro htakes
    cases route with
    | nil => exact absurd htakes not_takes_nil
    | cons name rest =>
      obtain ⟨u, hu, hkept, hrest⟩ := takes_cons_iff.mp htakes
      have hentry := FileTree.mem_of_child? hu
      have hkept := mt (hignored _ hentry).mp hkept
      exact ⟨(name, u), mem_keptEntries_iff.mpr ⟨hentry, hkept⟩, rest, rfl, hrest⟩
  · rintro ⟨e, he, rest, rfl, hrest⟩
    obtain ⟨hentry, hkept⟩ := mem_keptEntries_iff.mp he
    exact takes_cons_iff.mpr ⟨e.2, FileTree.child?_of_mem hnodup hentry,
      mt (hignored e hentry).mpr hkept, hrest⟩

/-- The walk finds the paths of the routes that are taken, in the order of their names. The
induction is over the tree, and the routes of a directory are those of its entries, one entry after
the other. -/
theorem walk_eq_map (hrules : Path.IsName rules.ignoreFile) {t : FileTree} (ht : t.Proper) :
    ∀ path above, ∃ routes : List (List String),
      rules.walk path above t = routes.map (List.foldl Path.child path) ∧
        (routes.Pairwise fun r s => r.map Text.encode < s.map Text.encode) ∧
          ∀ route, route ∈ routes ↔ rules.Takes path t route := by
  induction ht with
  | file content =>
    intro path above
    by_cases hwants : rules.wants path
    · refine ⟨[[]], by simp [walk, hwants], List.pairwise_singleton _ _, fun route => ?_⟩
      simp [takes_file_iff, hwants]
    · refine ⟨[], by simp [walk, hwants], .nil, fun route => ?_⟩
      simp [takes_file_iff, hwants]
  | @dir entries hnodup hnames _ ih =>
    intro path above
    choose! routesOf hpaths horder hmem using ih
    let routesUnder (e : String × FileTree) : List (List String) :=
      (routesOf e (Path.child path e.1) (.dir entries :: above)).map (e.1 :: ·)
    have hentries : ∀ e ∈ rules.keptEntries above entries, e ∈ entries := fun e he =>
      (mem_keptEntries_iff.mp he).1
    refine ⟨(rules.keptEntries above entries).flatMap routesUnder, ?_, ?_, fun route => ?_⟩
    · rw [walk_dir, List.map_flatMap]
      refine List.flatMap_congr fun e he => ?_
      rw [hpaths e (hentries e he), List.map_map]
      rfl
    · refine List.pairwise_flatMap.mpr ⟨fun e he => ?_, ?_⟩
      · refine List.pairwise_map.mpr ((horder e (hentries e he) _ _).imp fun h => ?_)
        exact List.cons_lt_cons_iff.mpr (.inr ⟨rfl, h⟩)
      · refine (pairwise_keptEntries hnodup).imp fun hlt r hr s hs => ?_
        obtain ⟨r, -, rfl⟩ := List.mem_map.mp hr
        obtain ⟨s, -, rfl⟩ := List.mem_map.mp hs
        exact List.cons_lt_cons_iff.mpr (.inl (Text.encode_lt_encode hlt))
    · rw [List.mem_flatMap, takes_dir_iff hrules hnodup hnames above]
      refine exists_congr fun e => and_congr_right fun he => ?_
      rw [List.mem_map]
      refine exists_congr fun rest => ?_
      rw [hmem e (hentries e he), and_comm, eq_comm]

/-- From a directory, a route is taken if it is selected: the extension is that of the last name. -/
theorem takes_iff_selects {t : FileTree} (ht : t.Proper) {route : List String} (hne : route ≠ []) :
    rules.Takes path t route ↔ rules.Selects t route := by
  have hwants (hnames : ∀ name ∈ route, Path.IsName name) :
      rules.wants (route.foldl Path.child path) ↔
        ∃ name, route.getLast? = some name ∧ rules.HasExtension name := by
    obtain ⟨before, name, rfl⟩ := (List.eq_nil_or_concat route).resolve_left hne
    rw [List.concat_eq_append, List.foldl_append, List.foldl_cons, List.foldl_nil, wants,
      Path.fileName?_child _ (hnames name (by simp)), suffix_isSuffixOf_iff]
    simp
  constructor
  · rintro ⟨⟨content, hfile⟩, hw, hadmits⟩
    exact ⟨⟨content, hfile⟩, (hwants (ht.isName_of_descend hfile)).mp hw, hadmits⟩
  · rintro ⟨⟨content, hfile⟩, hextension, hadmits⟩
    exact ⟨⟨content, hfile⟩, (hwants (ht.isName_of_descend hfile)).mpr hextension, hadmits⟩

end DiscoveryRules

/-! ## Discovery -/

/-- The files that are discovered in a directory are those at the selected routes, each of them once
and in the order of the bytes of the names. -/
theorem discover_of_dir {rules : DiscoveryRules} {tree : FileTree} {target : String}
    {entries : List (String × FileTree)} {above : List FileTree}
    (hrules : Path.IsName rules.ignoreFile)
    (htarget : tree.lookup target = .ok ⟨.dir entries, above⟩)
    (hproper : (FileTree.dir entries).Proper) :
    ∃ routes : List (List String),
      discover rules tree target = .ok ⟨target, routes.map (List.foldl Path.child target)⟩ ∧
        (∀ route, route ∈ routes ↔ rules.Selects (.dir entries) route) ∧
          (routes.Pairwise fun r s => r.map Text.encode < s.map Text.encode) ∧
            (routes.map (List.foldl Path.child target)).Nodup := by
  obtain ⟨routes, hpaths, horder, htakes⟩ :=
    DiscoveryRules.walk_eq_map hrules hproper target above
  have hne : ∀ route ∈ routes, route ≠ [] := by
    rintro route hroute rfl
    exact DiscoveryRules.not_takes_nil ((htakes []).mp hroute)
  have hnames : ∀ route ∈ routes, ∀ name ∈ route, Path.IsName name := by
    intro route hroute
    obtain ⟨content, hfile⟩ := ((htakes route).mp hroute).isFile
    exact hproper.isName_of_descend hfile
  refine ⟨routes, ?_, fun route => ?_, horder, ?_⟩
  · rw [discover, htarget]
    dsimp only
    rw [hpaths]
  · rw [htakes]
    by_cases hnil : route = []
    · subst route
      refine iff_of_false DiscoveryRules.not_takes_nil ?_
      rintro ⟨-, ⟨name, hname, -⟩, -⟩
      cases hname
    · exact DiscoveryRules.takes_iff_selects hproper hnil
  · have hnodup : routes.Nodup := horder.imp fun hlt heq => by
      rw [heq] at hlt
      exact List.lt_irrefl _ hlt
    refine hnodup.map_on fun r hr s hs h => ?_
    exact Path.foldl_child_inj target (hne r hr) (hne s hs) (hnames r hr) (hnames s hs) h

/-- A directory with ignore files on two levels: one leaves out a directory, the other a file. -/
theorem discover_of_dir_two_levels :
    let rules : DiscoveryRules := ⟨"..php", ".sigignore"⟩
    let lib : List (String × FileTree) := [("z.php", .file []), ("b.php", .file []),
      (".sigignore", .file (Text.encode "# tests\n b.php \n"))]
    let src : List (String × FileTree) := [("lib", .dir lib), ("a.php", .file []),
      ("vendor", .dir [("v.php", .file [])]), (".sigignore", .file (Text.encode "vendor//\n"))]
    let tree : FileTree := .dir [("src", .dir src)]
    Path.IsName rules.ignoreFile ∧ tree.lookup "./src/" = .ok ⟨.dir src, [tree]⟩ ∧
      (FileTree.dir src).Proper ∧ ∃ routes : List (List String),
        discover rules tree "./src/" = .ok ⟨"./src/", routes.map (List.foldl Path.child "./src/")⟩ ∧
          (∀ route, route ∈ routes ↔ rules.Selects (.dir src) route) ∧
            (routes.Pairwise fun r s => r.map Text.encode < s.map Text.encode) ∧
              (routes.map (List.foldl Path.child "./src/")).Nodup := by
  intro rules lib src tree
  have hrules : Path.IsName rules.ignoreFile := by decide
  have htarget : tree.lookup "./src/" = .ok ⟨.dir src, [tree]⟩ := rfl
  have hproper : (FileTree.dir src).Proper := by
    refine .dir (by decide) (by decide) ?_
    simp only [src, List.forall_mem_cons]
    refine ⟨.dir (by decide) (by decide) ?_, .file _, .dir (by decide) (by decide) ?_, .file _,
      nofun⟩
    · simp only [lib, List.forall_mem_cons]
      exact ⟨.file _, .file _, .file _, nofun⟩
    · simp only [List.forall_mem_cons]
      exact ⟨.file _, nofun⟩
  exact ⟨hrules, htarget, hproper, discover_of_dir hrules htarget hproper⟩

end SourceSig
