import SourceSig.Path
import SourceSig.Proofs.NameParts

/-!
# Paths of entries

The path of an entry is that of its directory with the name after it, and a route of names leads
from a directory to what lies under it. A directory may be spelled with or without a slash at its
end; `Path.stem` is what stands in front of the names either way.

* `Path.fileName?_child` : the last component of the path of an entry is its name.
* `Path.foldl_child_inj` : two routes from one directory that have the same path are the same.
-/

namespace SourceSig

theorem Text.splitOn_append {sep : Char} (s t : List Char) :
    splitOn sep (s ++ sep :: t) = splitOn sep s ++ splitOn sep t := by
  induction s with
  | nil => simp [splitOn]
  | cons c s ih =>
    rw [List.cons_append, splitOn, splitOn, ih]
    split
    · rfl
    · cases h : splitOn sep s with
      | nil => exact absurd h (splitOn_ne_nil sep s)
      | cons part rest => rfl

namespace Path

/-- A name that an entry of a directory can have. -/
def IsName (name : String) : Prop :=
  name ≠ "" ∧ name ≠ "." ∧ name ≠ ".." ∧ '/' ∉ name.toList

instance : DecidablePred IsName := fun _ => inferInstanceAs (Decidable (_ ∧ _))

/-- What stands in front of the name in the path of an entry of a directory. -/
def stem (dir : String) : List Char :=
  if dir = "" ∨ dir.toList.getLast? = some '/' then dir.toList else dir.toList ++ ['/']

theorem parts_of_slash {path : String} {rest : List Char} (h : path.toList = '/' :: rest) :
    parts path = ⟨true, Text.splitOn '/' rest⟩ := by
  simp only [parts, h]

theorem parts_of_head?_ne {path : String} (h : path.toList.head? ≠ some '/') :
    parts path = ⟨false, Text.splitOn '/' path.toList⟩ := by
  unfold parts
  split
  · next rest heq => simp [heq] at h
  · rfl

variable {name : String}

theorem IsName.toList_ne_nil (h : IsName name) : name.toList ≠ [] := by
  simpa using h.1

theorem IsName.component?_eq (h : IsName name) :
    component? name.toList = some (.name name.toList) := by
  have hhere : name.toList ≠ ['.'] := fun heq => h.2.1 (String.toList_inj.mp heq)
  have hup : name.toList ≠ ['.', '.'] := fun heq => h.2.2.1 (String.toList_inj.mp heq)
  simp [component?, h.1, hhere, hup]

theorem IsName.head?_ne (h : IsName name) : name.toList.head? ≠ some '/' :=
  fun heq => h.2.2.2 (List.mem_of_mem_head? heq)

theorem IsName.parts_eq (h : IsName name) : parts name = ⟨false, [name.toList]⟩ := by
  rw [parts_of_head?_ne h.head?_ne, Text.splitOn_of_not_mem h.2.2.2]

theorem toList_child (dir : String) (h : IsName name) :
    (child dir name).toList = stem dir ++ name.toList := by
  unfold child stem
  simp only [or_iff_right h.head?_ne]
  by_cases hempty : dir = ""
  · simp [hempty]
  · simp only [hempty, false_or, if_false]
    split <;> simp

/-- The stem ends with a slash, which may be the directory's own, unless the path is empty. -/
theorem stem_cases (dir : String) : dir = "" ∧ stem dir = [] ∨
    ∃ front, stem dir = front ++ ['/'] ∧ (dir.toList = front ∨ dir.toList = front ++ ['/']) := by
  unfold stem
  split
  · next h =>
    rcases h with rfl | hlast
    · exact .inl ⟨rfl, rfl⟩
    · obtain ⟨front, hfront⟩ := List.getLast?_eq_some_iff.mp hlast
      exact .inr ⟨front, hfront, .inr hfront⟩
  · exact .inr ⟨_, rfl, .inl rfl⟩

/-- A leading slash leaves the last segment as it is. -/
theorem getLast?_segments (path : String) :
    (parts path).segments.getLast? = (Text.splitOn '/' path.toList).getLast? := by
  unfold parts
  split
  · next rest heq =>
    have hne := Text.splitOn_ne_nil '/' rest
    rw [heq, Text.splitOn, if_pos rfl, List.getLast?_cons, List.getLast?_eq_some_getLast hne]
    rfl
  · rfl

theorem fileName?_child (dir : String) (h : IsName name) :
    fileName? (child dir name) = some name := by
  have hsplit : (Text.splitOn '/' (child dir name).toList).getLast? = some name.toList := by
    rw [toList_child dir h]
    rcases stem_cases dir with ⟨-, hstem⟩ | ⟨front, hstem, -⟩
    · simp [hstem, Text.splitOn_of_not_mem h.2.2.2]
    · simp [hstem, Text.splitOn_append, Text.splitOn_of_not_mem h.2.2.2]
  rw [← getLast?_segments] at hsplit
  obtain ⟨before, hbefore⟩ := List.getLast?_eq_some_iff.mp hsplit
  simp [fileName?, components, hbefore, h.component?_eq]

/-! ## Routes -/

theorem stem_child (dir : String) (h : IsName name) :
    stem (child dir name) = stem dir ++ name.toList ++ ['/'] := by
  have hlist := toList_child dir h
  have hne : child dir name ≠ "" := by
    rw [ne_eq, ← String.toList_eq_nil_iff, hlist]
    simp [h.1]
  have hlast : (child dir name).toList.getLast? ≠ some '/' := by
    rw [hlist, List.getLast?_append_of_ne_nil _ h.toList_ne_nil]
    exact fun heq => h.2.2.2 (List.mem_of_mem_getLast? heq)
  rw [stem, if_neg (not_or.mpr ⟨hne, hlast⟩), hlist]

/-- The path at the end of a route is the directory and the names, with slashes between them. -/
theorem toList_foldl_child (dir : String) {route : List String} (hne : route ≠ [])
    (h : ∀ name ∈ route, IsName name) :
    (route.foldl child dir).toList = stem dir ++ ['/'].intercalate (route.map String.toList) := by
  induction route generalizing dir with
  | nil => exact absurd rfl hne
  | cons name rest ih =>
    obtain ⟨hname, hrest⟩ := List.forall_mem_cons.mp h
    cases rest with
    | nil => simpa using toList_child dir hname
    | cons next rest =>
      rw [List.foldl_cons, ih (child dir name) (by simp) hrest, stem_child dir hname]
      simp [List.intercalate]

/-- Names are told apart by the slashes between them. -/
theorem intercalate_names_inj {r s : List String} (hr : ∀ name ∈ r, IsName name)
    (hs : ∀ name ∈ s, IsName name)
    (h : ['/'].intercalate (r.map String.toList) = ['/'].intercalate (s.map String.toList)) :
    r = s := by
  have hpieces : ∀ {route : List String}, (∀ name ∈ route, IsName name) →
      Text.pieces '/' (['/'].intercalate (route.map String.toList)) = route.map String.toList := by
    intro route hroute
    refine Text.pieces_intercalate fun p hp => ?_
    obtain ⟨name, hname, rfl⟩ := List.mem_map.mp hp
    exact ⟨(hroute name hname).toList_ne_nil, (hroute name hname).2.2.2⟩
  have hnames := congrArg (Text.pieces '/') h
  rw [hpieces hr, hpieces hs] at hnames
  exact List.map_injective_iff.mpr (fun _ _ => String.toList_inj.mp) hnames

theorem foldl_child_inj (dir : String) {r s : List String} (hr : r ≠ []) (hs : s ≠ [])
    (hrnames : ∀ name ∈ r, IsName name) (hsnames : ∀ name ∈ s, IsName name)
    (h : r.foldl child dir = s.foldl child dir) : r = s := by
  have hlist := congrArg String.toList h
  rw [toList_foldl_child dir hr hrnames, toList_foldl_child dir hs hsnames] at hlist
  exact intercalate_names_inj hrnames hsnames (List.append_cancel_left hlist)

end Path

end SourceSig
