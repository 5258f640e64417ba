import Hamlet.Lib.RustTextProofs

/-!
# Unix paths: components, joining, and where a path leads

`std::path::Path` on Unix is a text; its meaning is the sequence of its components. `.` and
empty segments are dropped (a leading `.` of a relative path is kept, as `Path::components`
does), `..` is kept as a component of its own.

`walk dir cs` follows components from the directory `dir` (the list of names from the root):
the root component starts over, `..` climbs and stays at the root when there is nothing to
climb to. Links are not followed, so `resolve p` is where an absolute path leads in a file
system without them. The law that everything else uses is `walk_join`: joining two paths and
following the result is following one after the other — with an absolute right-hand side the
left one is forgotten, which `walk` does by starting over.
-/

namespace UnixPath

open RustText

/-- One component of a path (`std::path::Component`). -/
inductive Component where
  | rootDir
  | curDir
  | parentDir
  | normal (name : String)
  deriving DecidableEq, Repr

/-- `Path::is_absolute`. -/
def isAbsolute (p : String) : Bool := startsWith p "/"

/-- The texts between the separators. -/
def segments (p : String) : List String := (p.toList.splitOn '/').map String.ofList

/-- The component a segment stands for inside a path; empty segments and `.` are dropped. -/
def component? (seg : String) : Option Component :=
  if seg = "" ∨ seg = "." then none
  else if seg = ".." then some .parentDir
  else some (.normal seg)

/-- `Path::components`. -/
def components (p : String) : List Component :=
  if isAbsolute p then .rootDir :: (segments p).filterMap component?
  else if (segments p).head? = some "." then .curDir :: (segments p).filterMap component?
  else (segments p).filterMap component?

/-- `Path::join`: an absolute right-hand side replaces the left one. -/
def join (p q : String) : String :=
  if isAbsolute q then q
  else if p = "" ∨ endsWith p "/" then p ++ q
  else p ++ "/" ++ q

/-- The root, or the leading `.`, that a path starts with. -/
def start (p : String) : String :=
  if isAbsolute p then "/" else if (segments p).head? = some "." then "." else ""

/-- The segments behind it. -/
def body (p : String) : List String :=
  ((if start p = "" then p.toList else p.toList.tail).splitOn '/').map String.ofList

/-- The segments up to the last that is a component. -/
def trimRight (segs : List String) : List String :=
  segs.rdropWhile fun seg => (component? seg).isNone

/-- `Path::parent`: the path up to its last component, `none` at the root and for the empty path.
    What stands between the components before is left as it is. -/
def parent (p : String) : Option String :=
  match trimRight (body p) with
  | []   => if start p = "." then some "" else none
  | segs => some (start p ++ "/".intercalate (trimRight segs.dropLast))

example : parent "/x//y/./ca.crt/" = some "/x//y" := by decide

-- ── Where a path leads ───────────────────────────────────────────────────────

/-- Enter one component from a directory. -/
def enter (dir : List String) : Component → List String
  | .rootDir => []
  | .curDir => dir
  | .parentDir => dir.dropLast
  | .normal name => dir ++ [name]

/-- Follow components from a directory. -/
def walk (dir : List String) (cs : List Component) : List String := cs.foldl enter dir

/-- Where an absolute path leads. -/
def resolve (p : String) : List String := walk [] (components p)

@[simp] theorem walk_nil (dir : List String) : walk dir [] = dir := rfl

@[simp] theorem walk_cons (dir : List String) (c : Component) (cs : List Component) :
    walk dir (c :: cs) = walk (enter dir c) cs := rfl

theorem walk_append (dir : List String) (cs ds : List Component) :
    walk dir (cs ++ ds) = walk (walk dir cs) ds := List.foldl_append ..

/-- Only an absolute path forgets the directory it is followed from. -/
theorem walk_components (dir : List String) (p : String) :
    walk dir (components p) =
      walk (if isAbsolute p then [] else dir) ((segments p).filterMap component?) := by
  rw [components]
  by_cases habs : isAbsolute p = true
  · rw [if_pos habs, if_pos habs, walk_cons]; rfl
  · rw [if_neg habs, if_neg habs]
    by_cases hdot : (segments p).head? = some "."
    · rw [if_pos hdot, walk_cons]; rfl
    · rw [if_neg hdot]

/-- A separator separates the segments. -/
theorem segments_slash (p q : String) : segments (p ++ "/" ++ q) = segments p ++ segments q := by
  have h : (p ++ "/" ++ q).toList = p.toList ++ '/' :: q.toList := by
    rw [String.toList_append, String.toList_append, List.append_assoc]; rfl
  rw [segments, h, List.splitOn_append_cons_self, List.map_append]
  rfl

/-- Whether a non-empty text is absolute is decided by its first character. -/
theorem isAbsolute_append {p : String} (q : String) (h : p ≠ "") :
    isAbsolute (p ++ q) = isAbsolute p := by
  have hne : p.toList ≠ [] := fun hn => h (String.ext_iff.mpr hn)
  obtain ⟨c, cs, hc⟩ := List.exists_cons_of_ne_nil hne
  rw [isAbsolute, isAbsolute, startsWith, startsWith, String.toList_append, hc]
  rfl

/-- **Following a joined path.** Joining and following is following one after the other. -/
theorem walk_join (dir : List String) (p q : String) :
    walk dir (components (join p q)) = walk (walk dir (components p)) (components q) := by
  rw [join]
  by_cases habs : isAbsolute q = true
  · rw [if_pos habs, walk_components dir q, walk_components _ q, if_pos habs, if_pos habs]
  · rw [if_neg habs]
    by_cases hempty : p = ""
    · subst hempty
      rw [if_pos (Or.inl rfl)]
      have h : "" ++ q = q := by rw [String.ext_iff, String.toList_append]; rfl
      rw [h]; rfl
    · rw [walk_components _ q, if_neg habs, walk_components dir p, ← walk_append,
        ← List.filterMap_append]
      by_cases hsep : endsWith p "/" = true
      · -- the left path ends in a separator: its last segment is empty
        rw [if_pos (Or.inr hsep)]
        obtain ⟨u, hu⟩ : ∃ u, stripSuffix p "/" = some u := by
          rw [stripSuffix, if_pos hsep]; exact ⟨_, rfl⟩
        have hp : p = u ++ "/" ++ "" := by
          rw [stripSuffix_eq_some.mp hu, String.append_empty]
        have hpq : p ++ q = u ++ "/" ++ q := by rw [stripSuffix_eq_some.mp hu]
        rw [walk_components dir (p ++ q), isAbsolute_append q hempty, hpq, segments_slash]
        conv_rhs => rw [show segments p = segments u ++ [""] from by rw [hp, segments_slash]; rfl]
        simp [List.filterMap_append, component?]
      · rw [if_neg (not_or.mpr ⟨hempty, hsep⟩), walk_components dir (p ++ "/" ++ q),
          segments_slash, String.append_assoc, isAbsolute_append _ hempty]

-- ── The last component ───────────────────────────────────────────────────────

/-- What stands before the last separator of a text, the separator included. -/
def dirPart (p : String) : String := String.ofList (p.toList.rdropWhile (· != '/'))

/-- What stands after the last separator of a text, all of it when there is none. -/
def basePart (p : String) : String := String.ofList (p.toList.rtakeWhile (· != '/'))

theorem dirPart_append_basePart (p : String) : dirPart p ++ basePart p = p := by
  rw [String.ext_iff, String.toList_append, dirPart, basePart, String.toList_ofList,
    String.toList_ofList, List.rdropWhile_append_rtakeWhile]

theorem slash_notMem_basePart (p : String) : '/' ∉ (basePart p).toList := by
  rw [basePart, String.toList_ofList]
  intro h
  have := List.mem_rtakeWhile_imp h
  simp at this

/-- The part before the last name is empty or ends in a separator, so that a relative name
    is joined to it by writing it behind. -/
theorem join_dirPart (p : String) {name : String} (h : isAbsolute name = false) :
    join (dirPart p) name = dirPart p ++ name := by
  have hd : dirPart p = "" ∨ endsWith (dirPart p) "/" = true := by
    by_cases hnil : p.toList.rdropWhile (· != '/') = []
    · left; rw [dirPart, hnil]
    · right
      have hlast := List.rdropWhile_last_not _ _ hnil
      have hc : (p.toList.rdropWhile (· != '/')).getLast hnil = '/' := by simpa using hlast
      rw [endsWith, List.isSuffixOf_iff_suffix]
      refine ⟨(p.toList.rdropWhile (· != '/')).dropLast, ?_⟩
      have happ := List.dropLast_append_getLast hnil
      rw [hc] at happ
      exact happ.trans String.toList_ofList.symm
  rw [join, if_neg (by rw [h]; exact Bool.false_ne_true), if_pos hd]

/-- A text that is none of the special segments is one component. -/
theorem components_name {name : String} (hslash : '/' ∉ name.toList) (h : 2 < name.length) :
    isAbsolute name = false ∧ components name = [.normal name] := by
  have hlen : 2 < name.toList.length := by rwa [String.length_toList]
  have habs : isAbsolute name = false := by
    rw [isAbsolute, startsWith, Bool.eq_false_iff]
    intro hp
    obtain ⟨t, ht⟩ := List.isPrefixOf_iff_prefix.mp hp
    exact hslash (by rw [← ht]; exact List.mem_cons_self)
  have hseg : segments name = [name] := by
    rw [segments, List.splitOn_eq_singleton hslash, List.map_singleton, String.ofList_toList]
  have hne : ∀ t : String, t.toList.length ≤ 2 → name ≠ t := by
    rintro t ht rfl
    exact absurd hlen (by omega)
  have hc : component? name = some (.normal name) := by
    rw [component?, if_neg (not_or.mpr ⟨hne "" (by decide), hne "." (by decide)⟩),
      if_neg (hne ".." (by decide))]
  refine ⟨habs, ?_⟩
  rw [components, if_neg (by rw [habs]; exact Bool.false_ne_true), hseg,
    if_neg (by simpa using hne "." (by decide))]
  simp [hc]

/-- Following a path with an extension appended: the directory part is followed, and the
    last step enters the base name with the extension. -/
theorem walk_extension (dir : List String) (p : String) {ext : String}
    (hslash : '/' ∉ ext.toList) (h : 2 < ext.length) :
    walk dir (components (p ++ ext)) =
      walk dir (components (dirPart p)) ++ [basePart p ++ ext] := by
  have hlen : 2 < (basePart p ++ ext).length := by
    rw [String.length_append]; omega
  have hs : '/' ∉ (basePart p ++ ext).toList := by
    rw [String.toList_append, List.mem_append, not_or]
    exact ⟨slash_notMem_basePart p, hslash⟩
  obtain ⟨habs, hc⟩ := components_name hs hlen
  have hp : p ++ ext = join (dirPart p) (basePart p ++ ext) := by
    rw [join_dirPart p habs, ← String.append_assoc, dirPart_append_basePart]
  rw [hp, walk_join, hc]
  rfl

end UnixPath
