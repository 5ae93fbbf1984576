import SourceSig.Proofs.DiscoveredFiles
import SourceSig.Proofs.Scheduling
import SourceSig.Proofs.UniqueReading

/-!
# The paths in reports

A report names a file by its path relative to the root. A root can be spelled in many ways, with
slashes and dots at its end or in between, so it is taken off the path of a file by components
(`Path.after`), which leaves the names after it as they are.

* `Path.relativeTo_foldl_child` : what is left of a path under the root is the names on the way.
* `Path.normalize_of_routes` : so is the path in the report, unless a name has a backslash in it;
  files at different routes have different paths, and a batch has a report on each of them.
-/

namespace SourceSig

theorem Text.splitOn_intercalate {sep : Char} : ∀ {ps : List (List Char)}, ps ≠ [] →
    (∀ p ∈ ps, sep ∉ p) → splitOn sep ([sep].intercalate ps) = ps
  | [], hne, _ => absurd rfl hne
  | [p], _, h => by simpa using splitOn_of_not_mem (h p List.mem_cons_self)
  | p :: q :: ps, _, h => by
    obtain ⟨hp, hrest⟩ := List.forall_mem_cons.mp h
    rw [List.intercalate_cons_cons, List.append_assoc, List.singleton_append,
      splitOn_append_cons hp, splitOn_intercalate (by simp) hrest]

namespace Path

variable {route : List String}

/-! ## Names in a row -/

theorem intercalate_names_ne_nil (hne : route ≠ []) (h : ∀ name ∈ route, IsName name) :
    ['/'].intercalate (route.map String.toList) ≠ [] := by
  obtain ⟨name, rest, rfl⟩ := List.exists_cons_of_ne_nil hne
  rw [Text.intercalate_map_cons]
  simp [(h name List.mem_cons_self).1]

theorem head?_intercalate_names (h : ∀ name ∈ route, IsName name) :
    (['/'].intercalate (route.map String.toList)).head? ≠ some '/' := by
  cases route with
  | nil => simp
  | cons name rest =>
    have hname := h name List.mem_cons_self
    rw [Text.intercalate_map_cons, List.head?_append_of_ne_nil _ hname.toList_ne_nil]
    exact hname.head?_ne

theorem getLast?_intercalate_names (h : ∀ name ∈ route, IsName name) :
    (['/'].intercalate (route.map String.toList)).getLast? ≠ some '/' := by
  induction route with
  | nil => simp
  | cons name rest ih =>
    obtain ⟨hname, hrest⟩ := List.forall_mem_cons.mp h
    cases rest with
    | nil => simpa using fun heq => hname.2.2.2 (List.mem_of_mem_getLast? heq)
    | cons next rest =>
      have hne := intercalate_names_ne_nil (List.cons_ne_nil next rest) hrest
      rw [List.map_cons, List.map_cons, List.intercalate_cons_cons, ← List.map_cons,
        List.getLast?_append_of_ne_nil _ hne]
      exact ih hrest

theorem splitOn_intercalate_names (hne : route ≠ []) (h : ∀ name ∈ route, IsName name) :
    Text.splitOn '/' (['/'].intercalate (route.map String.toList)) = route.map String.toList := by
  refine Text.splitOn_intercalate (by simpa using hne) fun p hp => ?_
  obtain ⟨name, hname, rfl⟩ := List.mem_map.mp hp
  exact (h name hname).2.2.2

/-! ## The segments of a path -/

theorem component?_eq_none_iff {s : Segment} : component? s = none ↔ s = [] ∨ s = ['.'] := by
  unfold component?
  split_ifs with hnone hup
  · exact iff_of_true rfl hnone
  · exact iff_of_false nofun hnone
  · exact iff_of_false nofun hnone

/-- Only the empty path has no components. -/
theorem components_ne_nil {path : String} (h : path ≠ "") : components path ≠ [] := by
  obtain ⟨c, rest, hpath⟩ := List.exists_cons_of_ne_nil (mt String.toList_eq_nil_iff.mp h)
  by_cases hc : c = '/'
  · simp [components, parts_of_slash (hc ▸ hpath), Parts.start]
  · obtain ⟨s, segments, hsplit⟩ : ∃ s segments,
        Text.splitOn '/' (c :: rest) = (c :: s) :: segments := by
      rw [Text.splitOn, if_neg hc]
      split
      · exact ⟨[], [], rfl⟩
      · exact ⟨_, _, rfl⟩
    have hhead : path.toList.head? ≠ some '/' := by simpa [hpath] using hc
    intro hnil
    rw [components, parts_of_head?_ne hhead, hpath, hsplit] at hnil
    obtain ⟨hstart, hsegments⟩ := List.append_eq_nil_iff.mp hnil
    -- The first segment begins with `c`, so it stands for nothing only as a dot, which leads here.
    have hnone := List.filterMap_eq_nil_iff.mp hsegments (c :: s) List.mem_cons_self
    have hdot : c :: s = ['.'] := (component?_eq_none_iff.mp hnone).resolve_left (by simp)
    simp [Parts.start, hdot] at hstart

/-- What comes after a slash adds its segments to those of the path before. -/
theorem parts_append_slash {dir path : String} {names : List Char} (hne : dir ≠ "")
    (hpath : path.toList = dir.toList ++ '/' :: names) :
    parts path = ⟨(parts dir).absolute, (parts dir).segments ++ Text.splitOn '/' names⟩ := by
  obtain ⟨c, cs, hdir⟩ := List.exists_cons_of_ne_nil (mt String.toList_eq_nil_iff.mp hne)
  rw [hdir] at hpath
  by_cases hc : c = '/'
  · subst c
    rw [List.cons_append] at hpath
    rw [parts_of_slash hpath, parts_of_slash hdir, Text.splitOn_append]
  · have hpathHead : path.toList.head? ≠ some '/' := by simpa [hpath] using hc
    have hdirHead : dir.toList.head? ≠ some '/' := by simpa [hdir] using hc
    rw [parts_of_head?_ne hpathHead, parts_of_head?_ne hdirHead, hpath, hdir, Text.splitOn_append]

/-- The segments at the end of a route are those of the directory, but for an empty one at their
end, and then the names. -/
theorem exists_parts_foldl_child (dir : String) (hne : route ≠ [])
    (h : ∀ name ∈ route, IsName name) : ∃ front : List Segment,
      parts (route.foldl child dir) = ⟨(parts dir).absolute, front ++ route.map String.toList⟩ ∧
        ((parts dir).segments = front ∨ (parts dir).segments = front ++ [[]]) ∧
          (dir = "" → front = []) := by
  have hpath := toList_foldl_child dir hne h
  have hsplit := splitOn_intercalate_names hne h
  have hnames := head?_intercalate_names h
  generalize ['/'].intercalate (route.map String.toList) = names at hpath hsplit hnames
  rcases stem_cases dir with ⟨rfl, hstem⟩ | ⟨cs, hstem, hspelled⟩
  · rw [hstem, List.nil_append] at hpath
    rw [parts_of_head?_ne (hpath ▸ hnames), hpath, hsplit]
    exact ⟨[], rfl, .inr rfl, fun _ => rfl⟩
  have hdir : dir ≠ "" := by
    rintro rfl
    simp [stem] at hstem
  rw [hstem, List.append_assoc, List.singleton_append] at hpath
  by_cases hcs : cs = []
  · subst hcs
    have hslash : dir.toList = ['/'] := hspelled.resolve_left (by simpa using hdir)
    rw [parts_of_slash hpath, parts_of_slash hslash, hsplit]
    exact ⟨[], rfl, .inr rfl, fun _ => rfl⟩
  rcases hspelled with hspelled | hspelled
  · rw [← hspelled] at hpath
    rw [parts_append_slash hdir hpath, hsplit]
    exact ⟨_, rfl, .inl rfl, fun hempty => absurd hempty hdir⟩
  · -- The slash of the directory is followed by nothing in its own path, and by the names here.
    have hfront : String.ofList cs ≠ "" := by simpa using hcs
    rw [← String.toList_ofList (l := cs)] at hpath hspelled
    rw [parts_append_slash hfront hpath, parts_append_slash hfront hspelled, hsplit]
    exact ⟨_, rfl, .inr rfl, fun hempty => absurd hempty hdir⟩

/-! ## Taking the root off -/

/-- The components of some segments are taken off in front of the others. Segments that stand for
nothing can be left over. -/
theorem exists_after_eq (front segments : List Segment) : ∃ skipped : List Segment,
    (∀ s ∈ skipped, component? s = none) ∧
      after (front.filterMap component?) (front ++ segments) = some (skipped ++ segments) := by
  induction front with
  | nil => exact ⟨[], by simp, by simp [after]⟩
  | cons s front ih =>
    cases hs : component? s with
    | some d =>
      obtain ⟨skipped, hskipped, hafter⟩ := ih
      refine ⟨skipped, hskipped, ?_⟩
      rw [List.filterMap_cons_some hs, List.cons_append, after, hs]
      simpa using hafter
    | none =>
      rw [List.filterMap_cons_none hs]
      cases hfront : front.filterMap component? with
      | nil =>
        have hnone := List.filterMap_eq_nil_iff.mp hfront
        exact ⟨s :: front, List.forall_mem_cons.mpr ⟨hs, hnone⟩, by simp [after]⟩
      | cons c cs =>
        obtain ⟨skipped, hskipped, hafter⟩ := ih
        refine ⟨skipped, hskipped, ?_⟩
        rw [List.cons_append, after, hs, ← hfront]
        exact hafter

theorem dropWhile_names (h : ∀ name ∈ route, IsName name) :
    (route.map String.toList).dropWhile (fun s => (component? s).isNone) =
      route.map String.toList := by
  cases route with
  | nil => rfl
  | cons name rest => simp [(h name List.mem_cons_self).component?_eq]

theorem trimEnd_names (h : ∀ name ∈ route, IsName name) :
    trimEnd (route.map String.toList) = route.map String.toList := by
  rw [trimEnd, Text.dropEndWhile, ← List.map_reverse, dropWhile_names fun name hname =>
    h name (List.mem_reverse.mp hname), List.map_reverse, List.reverse_reverse]

theorem start_append_names {absolute : Bool} {front segments : List Segment}
    (h : ∀ name ∈ route, IsName name) (hsegments : segments = front ∨ segments = front ++ [[]]) :
    (Parts.mk absolute (front ++ route.map String.toList)).start =
      (Parts.mk absolute segments).start := by
  have hhead : (front ++ route.map String.toList).head? = some ['.'] ↔
      segments.head? = some ['.'] := by
    cases front with
    | cons s front => rcases hsegments with rfl | rfl <;> simp
    | nil =>
      refine iff_of_false ?_ (by rcases hsegments with rfl | rfl <;> simp)
      cases route with
      | nil => simp
      | cons name rest =>
        intro hname
        exact (h name List.mem_cons_self).2.1 (String.toList_inj.mp (by simpa using hname))
  simp only [Parts.start, hhead]

/-- A path whose segments are those of the root and then names is left with the names. -/
theorem relativeTo_of_parts {root path : String} {front : List Segment}
    (h : ∀ name ∈ route, IsName name)
    (hparts : parts path = ⟨(parts root).absolute, front ++ route.map String.toList⟩)
    (hfront : (parts root).segments = front ∨ (parts root).segments = front ++ [[]])
    (hempty : root = "" → front = []) :
    relativeTo root path = some (String.ofList (join (route.map String.toList))) := by
  have hstart : (parts path).start = (parts root).start := by
    rw [hparts, start_append_names h hfront]
  have hcomponents : components root =
      (parts root).start.toList ++ front.filterMap component? := by
    rcases hfront with hfront | hfront <;> simp [components, hfront, component?]
  by_cases hroot : root = ""
  · -- Nothing is taken off, and the first name is no leading dot.
    subst hroot
    have hnone : (parts path).start = none := hstart
    have hnil : components "" = [] := rfl
    rw [relativeTo, hnil, Parts.wholeText, hnone, hparts, hempty rfl]
    simp [trimEnd_names h]
  obtain ⟨skipped, hskipped, hafter⟩ := exists_after_eq front (route.map String.toList)
  have hleft : join (trimEnd ((skipped ++ route.map String.toList).dropWhile fun s =>
      (component? s).isNone)) = join (route.map String.toList) := by
    rw [List.dropWhile_append_of_pos (by simpa using hskipped), dropWhile_names h, trimEnd_names h]
  have hne := components_ne_nil hroot
  rw [hcomponents] at hne
  rw [relativeTo, hcomponents, hstart]
  simp only [hparts]
  cases hfirst : (parts root).start with
  | some d => simp [hafter, hleft]
  | none =>
    rw [hfirst] at hne
    obtain ⟨c, cs, hcs⟩ := List.exists_cons_of_ne_nil hne
    simp only [Option.toList_none, List.nil_append] at hcs ⊢
    rw [hcs] at hafter ⊢
    simp [hafter, hleft]

/-- Relative to the root, the path at the end of a route from it is the names on the way. -/
theorem relativeTo_foldl_child (root : String) (h : ∀ name ∈ route, IsName name) :
    relativeTo root (route.foldl child root) =
      some (String.ofList (join (route.map String.toList))) := by
  by_cases hne : route = []
  · subst hne
    by_cases hroot : root = ""
    · subst hroot
      rfl
    · exact relativeTo_of_parts h (by simp) (.inl rfl) fun hempty => absurd hempty hroot
  · obtain ⟨front, hparts, hfront, hempty⟩ := exists_parts_foldl_child root hne h
    exact relativeTo_of_parts h hparts hfront hempty

/-! ## Paths in reports -/

/-- A name that a report shows as it is. A backslash would be taken for a slash. -/
def IsPlainName (name : String) : Prop :=
  IsName name ∧ '\\' ∉ name.toList

instance : DecidablePred IsPlainName := fun _ => inferInstanceAs (Decidable (_ ∧ _))

theorem backslash_not_mem_intercalate (h : ∀ name ∈ route, IsPlainName name) :
    '\\' ∉ ['/'].intercalate (route.map String.toList) := by
  intro hmem
  rcases Text.mem_intercalate hmem with hslash | ⟨part, hpart, hmem⟩
  · simp at hslash
  · obtain ⟨name, hname, rfl⟩ := List.mem_map.mp hpart
    exact (h name hname).2 hmem

/-- The path of a file below a root is made of the names that lead to it. -/
theorem normalize_foldl_child (root : String) (h : ∀ name ∈ route, IsPlainName name) :
    normalize root (route.foldl child root) = "/".intercalate route := by
  have hnames : ∀ name ∈ route, IsName name := fun name hname => (h name hname).1
  have hrelative := relativeTo_foldl_child root hnames
  have hbackslash := backslash_not_mem_intercalate h
  have hhead := head?_intercalate_names hnames
  have hlast := getLast?_intercalate_names hnames
  rw [← String.toList_inj, String.toList_intercalate, normalize, hrelative, Option.getD_some,
    String.toList_ofList, String.toList_ofList, join]
  change _ = ['/'].intercalate (route.map String.toList)
  generalize ['/'].intercalate (route.map String.toList) = names at hbackslash hhead hlast
  have hslashed : names.map (fun c => if c = '\\' then '/' else c) = names := by
    refine (List.map_congr_left fun c hc => if_neg ?_).trans (List.map_id names)
    rintro rfl
    exact hbackslash hc
  have hfront : names.dropWhile (· = '/') = names := Text.dropWhile_eq_iff.mpr ⟨0, rfl, hhead⟩
  have hback : Text.dropEndWhile (· = '/') names = names :=
    Text.dropEndWhile_eq_iff.mpr ⟨0, (List.append_nil names).symm, hlast⟩
  rw [hslashed, hfront, hback]

theorem intercalate_inj {r s : List String} (hr : ∀ name ∈ r, IsPlainName name)
    (hs : ∀ name ∈ s, IsPlainName name) (h : "/".intercalate r = "/".intercalate s) : r = s := by
  rw [← String.toList_inj, String.toList_intercalate, String.toList_intercalate] at h
  exact intercalate_names_inj (fun name hname => (hr name hname).1)
    (fun name hname => (hs name hname).1) h

/-- Whatever the root, a file under it has the names on the way to it, with slashes between them,
as its path in a report, and no other file has this path. So there is one report on each file of a
batch. -/
theorem normalize_of_routes (root : String) :
    (∀ route : List String, (∀ name ∈ route, IsPlainName name) →
      let path := normalize root (route.foldl child root)
      path = "/".intercalate route ∧ '\\' ∉ path.toList ∧ path.toList.head? ≠ some '/' ∧
        path.toList.getLast? ≠ some '/') ∧
    (∀ r s : List String, (∀ name ∈ r, IsPlainName name) → (∀ name ∈ s, IsPlainName name) →
      r ≠ s → normalize root (r.foldl child root) ≠ normalize root (s.foldl child root)) ∧
    ∀ (files : List (List String × Attempt)) (seconds workers : Nat)
      (finished : List (String × Attempt)), (∀ file ∈ files, ∀ name ∈ file.1, IsPlainName name) →
        (files.map Prod.fst).Nodup →
          Pool.Finishes workers (files.map fun file => (file.1.foldl child root, file.2)) finished →
            ((Batch.ofFinished root seconds finished).reports.map Report.path).Perm
              (files.map fun file => "/".intercalate file.1) := by
  refine ⟨fun route h => ?_, fun r s hr hs hne => ?_,
    fun files seconds workers finished h hnodup hfinishes => ?_⟩
  · have hnames : ∀ name ∈ route, IsName name := fun name hname => (h name hname).1
    dsimp only
    rw [normalize_foldl_child root h, String.toList_intercalate]
    exact ⟨rfl, backslash_not_mem_intercalate h, head?_intercalate_names hnames,
      getLast?_intercalate_names hnames⟩
  · rw [normalize_foldl_child root hr, normalize_foldl_child root hs]
    exact mt (intercalate_inj hr hs) hne
  · have hpaths : (files.map fun file => (file.1.foldl child root, file.2)).map
        (Batch.pathOf root) = files.map fun file => "/".intercalate file.1 := by
      rw [List.map_map]
      exact List.map_congr_left fun file hfile => normalize_foldl_child root (h file hfile)
    have hdistinct : (files.map fun file => "/".intercalate file.1).Nodup := by
      refine List.pairwise_map.mpr ((List.pairwise_map.mp hnodup).imp_of_mem fun hf hg hne => ?_)
      exact mt (intercalate_inj (h _ hf) (h _ hg)) hne
    rw [← hdistinct.dedup, ← hpaths]
    exact Batch.perm_paths_reports hfinishes

/-- A root with dots around its name, and two files of one name under it. -/
theorem normalize_of_routes_dotted :
    let files : List (List String × Attempt) :=
      [(["lib", "b.php"], .overran), (["b.php"], .answered (.ok ""))]
    let jobs := files.map fun file => (file.1.foldl child "./src/.", file.2)
    (∀ file ∈ files, ∀ name ∈ file.1, IsPlainName name) ∧ (files.map Prod.fst).Nodup ∧
      normalize "./src/." "./src/./lib/b.php" = "lib/b.php" ∧
        normalize "./src/." "./src/./lib/b.php" ≠ normalize "./src/." "./src/./b.php" ∧
          ((Batch.ofFinished "./src/." 30 jobs).reports.map Report.path).Perm
            ["lib/b.php", "b.php"] := by
  intro files jobs
  have hlib : ["lib", "b.php"].foldl child "./src/." = "./src/./lib/b.php" := by decide +kernel
  have htop : ["b.php"].foldl child "./src/." = "./src/./b.php" := by decide +kernel
  have hslashed : "/".intercalate ["lib", "b.php"] = "lib/b.php" := by decide +kernel
  have hplain : ∀ file ∈ files, ∀ name ∈ file.1, IsPlainName name := by
    simp only [files, List.forall_mem_cons]
    decide
  have hnodup : (files.map Prod.fst).Nodup := by decide
  obtain ⟨hpath, hdistinct, hreports⟩ := normalize_of_routes "./src/."
  obtain ⟨heq, -⟩ := hpath ["lib", "b.php"] (by decide)
  have hne := hdistinct ["lib", "b.php"] ["b.php"] (by decide) (by decide) (by decide)
  have hperm := hreports files 30 1 jobs hplain hnodup (Pool.finishes_self 1 jobs)
  rw [hlib, hslashed] at heq
  rw [hlib, htop] at hne
  simp only [files, List.map_cons, List.map_nil, hslashed] at hperm
  exact ⟨hplain, hnodup, heq, hne, hperm⟩

end Path

end SourceSig
