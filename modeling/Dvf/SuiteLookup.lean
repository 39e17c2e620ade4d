/-
**Where the file of a test suite is looked for.**

`loadTestSuite` joins the suite id, which comes from the client, into a path: first below the
directory `test-suites` of the working directory and of every directory above it, up to the first
such path that exists, and else below four fixed directories.  The id is joined as it is, and
`filepath.Join` cleans `..` away lexically, so an id may lead out of the directory it is joined to.

A relative path goes up some directories and then down (`Go.relative`).  The lookup stays below the
suite directories, in every working directory, exactly when the id does not go up, or when it goes
up and comes down into a directory `test-suites` that is searched anyway.

Main definitions:

* `Dvf.searchUp`, `Dvf.loadSuiteText`, `Dvf.lookupPaths` — the lookup, and the paths that it tests
  or reads;
* `Dvf.suitesDirs`, `Dvf.LookupConfined` — the suite directories, and that the lookup stays below
  them;
* `Dvf.StaysBelow` — the ids for which it does.

Main results:

* `Dvf.searchUp_eq` — the walk to the root tests every directory above, up to the first hit;
* `Dvf.lookupConfined_iff` — the lookup is confined exactly for those ids.
-/

import Dvf.Commands
import Dvf.GoPaths
import Mathlib.Data.List.DropRight
import Mathlib.Data.List.Infix

set_option autoImplicit false

namespace Dvf

open Go (IsElem elems pathClean pathDir pathJoin rootPath resolve relative cleaned)

/-! ### The lookup -/

/-- The path that is tested in a directory of the walk. -/
def suiteFile (dir suiteID : String) : String :=
  pathJoin [dir, "test-suites", suiteID, "suite.json"]

/-- The walk from a directory to the root, for a number of rounds: the paths that were tested, and
the one that exists. -/
def searchUp (stat : String → Bool) (suiteID : String) : ℕ → String → List String × Option String
  | 0, _ => ([], none)
  | rounds + 1, dir =>
      let p := suiteFile dir suiteID
      if stat p then ([p], some p)
      else
        let parent := pathDir dir
        if parent = dir then ([p], none)
        else
          let rest := searchUp stat suiteID rounds parent
          (p :: rest.1, rest.2)

/-- The directories that are searched when the walk has found nothing. -/
def fallbackDirs : List String :=
  ["/home/kartheekbudime/driver-validation-suite/test-suites", "../../../test-suites",
    "../test-suites", "test-suites"]

/-- The paths that are read when the walk has found nothing. -/
def fallbackPaths (suiteID : String) : List String :=
  fallbackDirs.map fun dir => pathJoin [dir, suiteID, "suite.json"]

/-- Reading one path after the other up to the first that can be read: the paths, and what the last
read gave. -/
def readFirst (read : String → Except String String) :
    Except String String → List String → List String × Except String String
  | last, [] => ([], last)
  | _, p :: ps =>
      if (read p).isOk then ([p], read p)
      else
        let rest := readFirst read (read p) ps
        (p :: rest.1, rest.2)

/-- The text of a suite file, or the error of `loadTestSuite`. -/
def suiteText (suiteID : String) : Except String String → Except String String
  | .error err => .error ("loading test suite " ++ suiteID ++ ": " ++ err)
  | .ok data =>
      if data = "" then .error ("loading test suite " ++ suiteID ++ ": %!w(<nil>)") else .ok data

/-- **The lookup of `loadTestSuite`** for a suite that is not built in: the paths that are tested or
read, in order, and the text of the suite file.  A walk has at most as many rounds as the path of
the working directory has elements (`searchUp_eq`). -/
def loadSuiteText (getwd : Option String) (stat : String → Bool)
    (read : String → Except String String) (suiteID : String) :
    List String × Except String String :=
  let walk := getwd.elim ([], none) fun cwd => searchUp stat suiteID (elems cwd).length cwd
  let data := walk.2.elim (readFirst read (.ok "") (fallbackPaths suiteID)) fun p => ([p], read p)
  (walk.1 ++ data.1, suiteText suiteID data.2)

/-- The paths that `loadTestSuite` tests or reads. -/
def lookupPaths (getwd : Option String) (stat : String → Bool)
    (read : String → Except String String) (suiteID : String) : List String :=
  if isVishwaSuite suiteID then [] else (loadSuiteText getwd stat read suiteID).1

/-! ### The suite directories -/

/-- A working directory, by its elements. -/
structure WorkDir where
  /-- The elements, from the root. -/
  elems : List String
  isElem : ∀ e ∈ elems, IsElem e

/-- What `os.Getwd` gives. -/
def WorkDir.path (cwd : WorkDir) : String := rootPath cwd.elems

/-- A directory and those above it, from the directory to the root. -/
def ancestors (es : List String) : List (List String) := es.inits.reverse

/-- **The suite directories** of the lookup. -/
def suitesDirs (cwd : WorkDir) : List String :=
  (ancestors cwd.elems).map (fun es => pathJoin [rootPath es, "test-suites"]) ++ fallbackDirs

def LiesBelow (cwd : WorkDir) (dir p : String) : Prop :=
  resolve cwd.elems dir <+: resolve cwd.elems p ∧ resolve cwd.elems dir ≠ resolve cwd.elems p

instance (cwd : WorkDir) (dir p : String) : Decidable (LiesBelow cwd dir p) :=
  inferInstanceAs (Decidable (_ ∧ _))

/-- **The lookup of a suite is confined**: from every working directory, whatever files there are,
every path that is tested or read lies below a suite directory. -/
def LookupConfined (suiteID : String) : Prop :=
  ∀ (cwd : WorkDir) (getwd : Option String) (stat : String → Bool)
    (read : String → Except String String), getwd = none ∨ getwd = some cwd.path →
    ∀ p ∈ lookupPaths getwd stat read suiteID, ∃ dir ∈ suitesDirs cwd, LiesBelow cwd dir p

/-- **The ids that stay below**: those that do not go up, and those that go up and come down into a
directory `test-suites` that is searched.  Two or three steps up end above the fixed directory of
`fallbackDirs` but below the root, where nothing is searched. -/
def StaysBelow (suiteID : String) : Prop :=
  (relative suiteID).1 = 0 ∨
    (relative suiteID).2.getLast? = some "test-suites" ∧
      ((relative suiteID).1 = 1 ∨ 4 ≤ (relative suiteID).1)

instance (suiteID : String) : Decidable (StaysBelow suiteID) :=
  inferInstanceAs (Decidable (_ ∨ _))

/-! ### The walk -/

theorem ancestors_concat (init : List String) (e : String) :
    ancestors (init ++ [e]) = (init ++ [e]) :: ancestors init := by
  simp [ancestors, List.inits_append]

theorem mem_ancestors {es es' : List String} : es' ∈ ancestors es ↔ es' <+: es := by
  rw [ancestors, List.mem_reverse, List.mem_inits]

/-- **The walk to the root** tests the directory and all above it, up to the first path that exists;
a round for every directory is enough. -/
theorem searchUp_eq (stat : String → Bool) (suiteID : String) {es : List String}
    (h : ∀ e ∈ es, IsElem e) {rounds : ℕ} (hrounds : es.length < rounds) :
    let ps := (ancestors es).map fun es => suiteFile (rootPath es) suiteID
    searchUp stat suiteID rounds (rootPath es) =
      (ps.takeWhile (! stat ·) ++ (ps.find? stat).toList, ps.find? stat) := by
  -- from the last element to the root, as the walk goes
  induction es using List.reverseRecOn generalizing rounds with
  | nil =>
      obtain ⟨rounds, rfl⟩ : ∃ n, rounds = n + 1 := ⟨rounds - 1, by simp at hrounds; omega⟩
      have hroot : pathDir (rootPath []) = rootPath [] := Go.pathDir_rootPath h
      by_cases hstat : stat (suiteFile (rootPath []) suiteID)
      · simp [searchUp, ancestors, hstat]
      · simp [searchUp, ancestors, hstat, hroot]
  | append_singleton init e ih =>
      obtain ⟨rounds, rfl⟩ : ∃ n, rounds = n + 1 := ⟨rounds - 1, by simp at hrounds; omega⟩
      rw [List.forall_mem_append] at h
      have hparent : pathDir (rootPath (init ++ [e])) = rootPath init := by
        rw [Go.pathDir_rootPath (List.forall_mem_append.2 h), List.dropLast_concat]
      have hne : rootPath init ≠ rootPath (init ++ [e]) := by
        intro heq
        have hres := congrArg (resolve []) heq
        rw [Go.resolve_rootPath h.1, Go.resolve_rootPath (List.forall_mem_append.2 h)] at hres
        simpa using congrArg List.length hres
      have ih := ih h.1 (by simpa using hrounds : init.length < rounds)
      by_cases hstat : stat (suiteFile (rootPath (init ++ [e])) suiteID)
      · simp [searchUp, ancestors_concat, hstat]
      · simp [searchUp, ancestors_concat, hstat, hparent, hne, ih]

/-! ### Where the paths lead -/

/-- **Where an id leads from a suite directory**, both by their elements. -/
def landsAt (dir : List String) (suiteID : String) : List String :=
  dir.rdrop (relative suiteID).1 ++ (relative suiteID).2.reverse ++ ["suite.json"]

/-- The elements of the fixed directory of `fallbackDirs`. -/
def homeDir : List String := ["home", "kartheekbudime", "driver-validation-suite"]

def IsSuitesDir (cwd : WorkDir) (dir : List String) : Prop :=
  dir = homeDir ++ ["test-suites"] ∨ ∃ es, es <+: cwd.elems ∧ dir = es ++ ["test-suites"]

section Lands

variable (cwd : WorkDir) {suiteID : String}

theorem WorkDir.dotdot_free : ".." ∉ cwd.elems := fun h => (cwd.isElem _ h).ne_dotdot rfl

theorem cleaned_id {st : List String} (hst : ".." ∉ st) :
    cleaned true st ([suiteID, "suite.json"].flatMap elems) =
      (landsAt st.reverse suiteID).reverse := by
  have hfile : elems "suite.json" = ["suite.json"] := Go.elems_of_slash_free (by decide)
  rw [List.flatMap_cons, List.flatMap_singleton, hfile, Go.cleaned_concat, Go.cleaned_elems_eq hst,
    Go.cleanElem_push ⟨by decide, by decide⟩ (by decide), landsAt,
    List.rdrop_eq_reverse_drop_reverse]
  simp

theorem dotdot_free_cleaned (path : String) :
    ".." ∉ cleaned true (if Go.rooted path then [] else cwd.elems.reverse) (elems path) := by
  intro hmem
  rcases Go.mem_cleaned hmem with hmem | ⟨_, _, _, hne⟩
  · split at hmem
    · cases hmem
    · exact cwd.dotdot_free (List.mem_reverse.1 hmem)
  · exact hne rfl rfl

theorem resolve_fallback {dir : String} (hdir : dir ≠ "") :
    resolve cwd.elems (pathJoin [dir, suiteID, "suite.json"]) =
      landsAt (resolve cwd.elems dir) suiteID := by
  rw [Go.resolve_pathJoin cwd.dotdot_free hdir, cleaned_id (dotdot_free_cleaned cwd dir),
    List.reverse_reverse]
  rfl

theorem rootPath_ne_empty (es : List String) : rootPath es ≠ "" := by
  intro h
  have hroot := Go.rooted_rootPath es
  rw [h] at hroot
  cases hroot

theorem resolve_home :
    resolve cwd.elems "/home/kartheekbudime/driver-validation-suite/test-suites" =
      homeDir ++ ["test-suites"] := by
  have hpath : "/home/kartheekbudime/driver-validation-suite/test-suites" =
      rootPath (homeDir ++ ["test-suites"]) := by decide +kernel
  have hnames : ∀ e ∈ homeDir ++ ["test-suites"], IsElem e := by decide
  rw [hpath, Go.resolve_rootPath hnames]

variable {es : List String} (hes : ∀ e ∈ es, IsElem e)

include hes

theorem cleaned_testSuites :
    cleaned true (cleaned true [] (elems (rootPath es))) (elems "test-suites") =
      (es ++ ["test-suites"]).reverse := by
  have hname : elems "test-suites" = ["test-suites"] := Go.elems_of_slash_free (by decide)
  have hpush : Go.cleanElem true es.reverse "test-suites" = "test-suites" :: es.reverse :=
    Go.cleanElem_push ⟨by decide, by decide⟩ (by decide)
  rw [hname, Go.cleaned_elems_rootPath hes, List.append_nil, List.reverse_concat]
  exact hpush

theorem resolve_suitesDir :
    resolve cwd.elems (pathJoin [rootPath es, "test-suites"]) = es ++ ["test-suites"] := by
  rw [Go.resolve_pathJoin cwd.dotdot_free (rootPath_ne_empty es), Go.rooted_rootPath, if_pos rfl,
    List.flatMap_singleton, cleaned_testSuites hes, List.reverse_reverse]

theorem resolve_suiteFile :
    resolve cwd.elems (suiteFile (rootPath es) suiteID) =
      landsAt (es ++ ["test-suites"]) suiteID := by
  have hfree : ".." ∉ (es ++ ["test-suites"]).reverse := by
    rw [List.mem_reverse, List.mem_append, List.mem_singleton, not_or]
    exact ⟨fun h => (hes _ h).ne_dotdot rfl, by decide⟩
  rw [suiteFile, Go.resolve_pathJoin cwd.dotdot_free (rootPath_ne_empty es), Go.rooted_rootPath,
    if_pos rfl, List.flatMap_cons, Go.cleaned_append, cleaned_testSuites hes, cleaned_id hfree,
    List.reverse_reverse, List.reverse_reverse]

end Lands

/-- The directories that are searched when the walk has found nothing. -/
theorem isSuitesDir_fallback (cwd : WorkDir) {dir : String} (h : dir ∈ fallbackDirs) :
    IsSuitesDir cwd (resolve cwd.elems dir) := by
  -- the relative ones go up some directories from the working directory
  have hrel : ∀ (path : String) (k : ℕ), Go.rooted path = false →
      relative path = (k, ["test-suites"]) → IsSuitesDir cwd (resolve cwd.elems path) := by
    intro path k hroot hpath
    have hcwd : ".." ∉ cwd.elems.reverse := by rw [List.mem_reverse]; exact cwd.dotdot_free
    refine Or.inr ⟨cwd.elems.rdrop k, List.take_prefix _ _, ?_⟩
    rw [resolve, if_neg (by simp [hroot]), Go.cleaned_elems_eq hcwd, hpath,
      List.rdrop_eq_reverse_drop_reverse]
    simp
  rw [fallbackDirs] at h
  simp only [List.mem_cons, List.not_mem_nil, or_false] at h
  rcases h with rfl | rfl | rfl | rfl
  · exact Or.inl (resolve_home cwd)
  · exact hrel _ 3 (by decide +kernel) (by decide +kernel)
  · exact hrel _ 1 (by decide +kernel) (by decide +kernel)
  · exact hrel _ 0 (by decide +kernel) (by decide +kernel)

/-- The suite directories, by their elements. -/
theorem exists_mem_suitesDirs {cwd : WorkDir} {dir : List String} :
    (∃ path ∈ suitesDirs cwd, resolve cwd.elems path = dir) ↔ IsSuitesDir cwd dir := by
  have hisElem : ∀ {es}, es <+: cwd.elems → ∀ e ∈ es, IsElem e :=
    fun hes e he => cwd.isElem e (hes.subset he)
  constructor
  · rintro ⟨path, hpath, rfl⟩
    rw [suitesDirs, List.mem_append, List.mem_map] at hpath
    rcases hpath with ⟨es, hes, rfl⟩ | hpath
    · rw [mem_ancestors] at hes
      exact Or.inr ⟨es, hes, resolve_suitesDir cwd (hisElem hes)⟩
    · exact isSuitesDir_fallback cwd hpath
  · rintro (rfl | ⟨es, hes, rfl⟩)
    · exact ⟨_, List.mem_append_right _ List.mem_cons_self, resolve_home cwd⟩
    · refine ⟨pathJoin [rootPath es, "test-suites"], List.mem_append_left _ ?_,
        resolve_suitesDir cwd (hisElem hes)⟩
      exact List.mem_map_of_mem (mem_ancestors.2 hes)

/-! ### The paths of a lookup -/

theorem mem_of_mem_readFirst {read : String → Except String String} {last : Except String String}
    {ps : List String} {p : String} (h : p ∈ (readFirst read last ps).1) : p ∈ ps := by
  induction ps generalizing last with
  | nil => exact h
  | cons q ps ih =>
      rw [readFirst] at h
      split at h
      · rw [List.mem_singleton.1 h]
        exact List.mem_cons_self
      · rcases List.mem_cons.1 h with rfl | h
        · exact List.mem_cons_self
        · exact List.mem_cons_of_mem _ (ih h)

theorem mem_searchUp (stat : String → Bool) (suiteID : String) (cwd : WorkDir) {p : String}
    (h : p ∈ (searchUp stat suiteID (elems cwd.path).length cwd.path).1 ∨
      p ∈ (searchUp stat suiteID (elems cwd.path).length cwd.path).2) :
    ∃ es, es <+: cwd.elems ∧ p = suiteFile (rootPath es) suiteID := by
  have hmem : p ∈ (ancestors cwd.elems).map fun es => suiteFile (rootPath es) suiteID := by
    rw [WorkDir.path, searchUp_eq stat suiteID cwd.isElem (Go.length_lt_elems_rootPath cwd.isElem)]
      at h
    simp only [List.mem_append, Option.mem_toList, Option.mem_def] at h
    rcases h with (h | h) | h
    · exact (List.takeWhile_prefix _).subset h
    · exact List.mem_of_find?_eq_some h
    · exact List.mem_of_find?_eq_some h
  obtain ⟨es, hes, rfl⟩ := List.mem_map.1 hmem
  exact ⟨es, mem_ancestors.1 hes, rfl⟩

/-- **A path of the lookup leads from a suite directory to where the id says.** -/
theorem resolve_of_mem_lookupPaths {cwd : WorkDir} {getwd : Option String} {stat : String → Bool}
    {read : String → Except String String} {suiteID p : String}
    (hgetwd : getwd = none ∨ getwd = some cwd.path) (h : p ∈ lookupPaths getwd stat read suiteID) :
    ∃ dir, IsSuitesDir cwd dir ∧ resolve cwd.elems p = landsAt dir suiteID := by
  have hwalk : ∀ p, (∃ es, es <+: cwd.elems ∧ p = suiteFile (rootPath es) suiteID) →
      ∃ dir, IsSuitesDir cwd dir ∧ resolve cwd.elems p = landsAt dir suiteID := by
    rintro p ⟨es, hes, rfl⟩
    exact ⟨es ++ ["test-suites"], Or.inr ⟨es, hes, rfl⟩,
      resolve_suiteFile cwd fun e he => cwd.isElem e (hes.subset he)⟩
  have hfall : ∀ p ∈ (readFirst read (.ok "") (fallbackPaths suiteID)).1,
      ∃ dir, IsSuitesDir cwd dir ∧ resolve cwd.elems p = landsAt dir suiteID := by
    intro p hp
    obtain ⟨dir, hdir, rfl⟩ := List.mem_map.1 (mem_of_mem_readFirst hp)
    have hne : dir ≠ "" := by
      rintro rfl
      exact absurd hdir (by decide)
    exact ⟨_, isSuitesDir_fallback cwd hdir, resolve_fallback cwd hne⟩
  rw [lookupPaths] at h
  split at h
  · cases h
  · rw [loadSuiteText] at h
    rcases hgetwd with rfl | rfl
    · simp only [Option.elim_none, List.nil_append] at h
      exact hfall p h
    · simp only [Option.elim_some, List.mem_append] at h
      rcases h with h | h
      · exact hwalk p (mem_searchUp stat suiteID cwd (Or.inl h))
      · cases hfound : (searchUp stat suiteID (elems cwd.path).length cwd.path).2 with
        | none =>
            rw [hfound] at h
            exact hfall p h
        | some q =>
            rw [hfound] at h
            rw [List.mem_singleton.1 h]
            exact hwalk q (mem_searchUp stat suiteID cwd (Or.inr hfound))

theorem readFirst_error (err : String) (last : Except String String) (ps : List String) :
    (readFirst (fun _ => .error err) last ps).1 = ps := by
  induction ps generalizing last with
  | nil => rfl
  | cons p ps ih =>
      have hread : (Except.error err : Except String String).isOk = false := rfl
      rw [readFirst, hread]
      simp [ih]

/-! ### Confinement -/

theorem IsSuitesDir.ne_landsAt {cwd : WorkDir} {dir : List String} (h : IsSuitesDir cwd dir)
    (dir' : List String) (suiteID : String) : dir ≠ landsAt dir' suiteID := by
  have hlast : dir.getLast? = some "test-suites" := by
    rcases h with rfl | ⟨es, _, rfl⟩
    · rfl
    · exact List.getLast?_concat
  intro heq
  rw [heq, landsAt, List.getLast?_concat] at hlast
  exact absurd hlast (by decide)

/-- **Confinement by the elements**: whatever suite directory the id is joined to, the file is below
one. -/
theorem lookupConfined_of_forall {suiteID : String}
    (h : ∀ (cwd : WorkDir) (dir : List String), IsSuitesDir cwd dir →
      ∃ dir', IsSuitesDir cwd dir' ∧ dir' <+: landsAt dir suiteID) : LookupConfined suiteID := by
  intro cwd getwd stat read hgetwd p hp
  obtain ⟨dir, hdir, hres⟩ := resolve_of_mem_lookupPaths hgetwd hp
  obtain ⟨dir', hdir', hpre⟩ := h cwd dir hdir
  obtain ⟨path, hpath, hdirs⟩ := exists_mem_suitesDirs.2 hdir'
  refine ⟨path, hpath, ?_⟩
  rw [LiesBelow, hres, hdirs]
  exact ⟨hpre, hdir'.ne_landsAt dir suiteID⟩

/-- Without any files, the lookup joins the id to its first and last directory. -/
theorem LookupConfined.exists_prefix {suiteID : String} (h : LookupConfined suiteID)
    (hv : isVishwaSuite suiteID = false) (cwd : WorkDir) {dir : List String}
    (hdir : dir = cwd.elems ∨ dir = homeDir) :
    ∃ dir', IsSuitesDir cwd dir' ∧ dir' <+: landsAt (dir ++ ["test-suites"]) suiteID := by
  -- a path of such a lookup that leads there
  obtain ⟨getwd, p, hgetwd, hp, hres⟩ : ∃ getwd p, (getwd = none ∨ getwd = some cwd.path) ∧
      p ∈ lookupPaths getwd (fun _ => false) (fun _ => .error "") suiteID ∧
      resolve cwd.elems p = landsAt (dir ++ ["test-suites"]) suiteID := by
    rcases hdir with rfl | rfl
    · refine ⟨some cwd.path, suiteFile cwd.path suiteID, Or.inr rfl, ?_,
        resolve_suiteFile cwd cwd.isElem⟩
      obtain ⟨n, hn⟩ : ∃ n, (elems cwd.path).length = n + 1 :=
        Nat.exists_eq_succ_of_ne_zero
          (Nat.ne_of_gt (Nat.zero_lt_of_lt (Go.length_lt_elems_rootPath cwd.isElem)))
      have hfirst : suiteFile cwd.path suiteID ∈
          (searchUp (fun _ => false) suiteID (n + 1) cwd.path).1 := by
        rw [searchUp]
        simp only [Bool.false_eq_true, if_false]
        split
        · exact List.mem_cons_self
        · exact List.mem_cons_self
      simp only [lookupPaths, hv, loadSuiteText, Option.elim_some, hn, Bool.false_eq_true, if_false]
      exact List.mem_append_left _ hfirst
    · refine ⟨none, pathJoin ["/home/kartheekbudime/driver-validation-suite/test-suites", suiteID,
        "suite.json"], Or.inl rfl, ?_, ?_⟩
      · simp only [lookupPaths, hv, loadSuiteText, Option.elim_none, readFirst_error,
          Bool.false_eq_true, if_false]
        exact List.mem_cons_self
      · rw [resolve_fallback cwd (by decide), resolve_home]
  obtain ⟨path, hpath, hbelow⟩ := h cwd getwd _ _ hgetwd p hp
  rw [LiesBelow, hres] at hbelow
  exact ⟨_, exists_mem_suitesDirs.1 ⟨path, hpath, rfl⟩, hbelow.1⟩

theorem landsAt_concat {suiteID : String} {k : ℕ} (hk : (relative suiteID).1 = k + 1)
    (dir : List String) :
    landsAt (dir ++ ["test-suites"]) suiteID =
      dir.rdrop k ++ ((relative suiteID).2.reverse ++ ["suite.json"]) := by
  rw [landsAt, hk, List.rdrop_concat_succ, List.append_assoc]

def rootDir : WorkDir := ⟨[], fun _ h => nomatch h⟩

/-- A working directory below as many directories as one likes. -/
def deepDir (k : ℕ) : WorkDir where
  elems := List.replicate k "x"
  isElem := by
    intro e he
    rw [List.eq_of_mem_replicate he]
    decide

section Outside

variable {suiteID : String} (h : LookupConfined suiteID) (hv : isVishwaSuite suiteID = false)
  {k : ℕ} (hk : (relative suiteID).1 = k + 1)

include h hv hk

/-- An id that goes up comes down into a directory `test-suites`. -/
theorem LookupConfined.comes_down : (relative suiteID).2.getLast? = some "test-suites" := by
  rw [← List.head?_reverse]
  -- from the root, the id leads to its own elements
  obtain ⟨dir, hdir, hpre⟩ := h.exists_prefix hv rootDir (Or.inl rfl)
  rw [landsAt_concat hk] at hpre
  have hroot : rootDir.elems.rdrop k = [] := List.rdrop_nil _
  rw [hroot, List.nil_append] at hpre
  rcases hdir with rfl | ⟨es, hes, rfl⟩
  · -- an id that spells the fixed directory out: from below other directories it leads elsewhere
    exfalso
    obtain ⟨dir, hdir, hdeep⟩ := h.exists_prefix hv (deepDir (k + 1)) (Or.inl rfl)
    rw [landsAt_concat hk] at hdeep
    have hrdrop : (deepDir (k + 1)).elems.rdrop k = ["x"] := by
      simp [deepDir, List.rdrop, List.take_replicate]
    obtain ⟨rest, hrest⟩ := hpre
    rw [hrdrop, ← hrest] at hdeep
    rcases hdir with rfl | ⟨es, hes, rfl⟩
    · exact absurd (List.cons_prefix_cons.1 hdeep).1 (by decide)
    · rcases es with _ | ⟨e, _ | ⟨e', es⟩⟩
      · exact absurd (List.cons_prefix_cons.1 hdeep).1 (by decide)
      · exact absurd (List.cons_prefix_cons.1 (List.cons_prefix_cons.1 hdeep).2).1 (by decide)
      · have he' : e' = "x" :=
          List.eq_of_mem_replicate (hes.subset (List.mem_cons_of_mem _ List.mem_cons_self))
        have hhome := (List.cons_prefix_cons.1 (List.cons_prefix_cons.1 hdeep).2).1
        rw [he'] at hhome
        exact absurd hhome (by decide)
  · rw [List.prefix_nil.1 hes] at hpre
    cases hrest : (relative suiteID).2.reverse with
    | nil =>
        rw [hrest] at hpre
        exact absurd (List.cons_prefix_cons.1 hpre).1 (by decide)
    | cons e rest =>
        rw [hrest] at hpre
        rw [← (List.cons_prefix_cons.1 hpre).1]
        rfl

/-- Two or three steps up from the fixed directory lead to a directory that is not searched. -/
theorem LookupConfined.steps_up : (relative suiteID).1 = 1 ∨ 4 ≤ (relative suiteID).1 := by
  have hhead := h.comes_down hv hk
  rw [← List.head?_reverse] at hhead
  obtain ⟨rest, hrest⟩ := List.head?_eq_some_iff.1 hhead
  obtain ⟨dir, hdir, hpre⟩ := h.exists_prefix hv rootDir (Or.inr rfl)
  rw [landsAt_concat hk, hrest] at hpre
  by_contra hnot
  have hcases : k = 1 ∨ k = 2 := by omega
  rcases hdir with rfl | ⟨es, hes, rfl⟩
  · rcases hcases with rfl | rfl
    · have hthird := (List.cons_prefix_cons.1
        (List.cons_prefix_cons.1 (List.cons_prefix_cons.1 hpre).2).2).1
      exact absurd hthird (by decide)
    · exact absurd (List.cons_prefix_cons.1 (List.cons_prefix_cons.1 hpre).2).1 (by decide)
  · rw [List.prefix_nil.1 hes] at hpre
    rcases hcases with rfl | rfl
    · exact absurd (List.cons_prefix_cons.1 hpre).1 (by decide)
    · exact absurd (List.cons_prefix_cons.1 hpre).1 (by decide)

end Outside

/-- An id that stays below leads from a suite directory to a file below one. -/
theorem StaysBelow.exists_prefix {suiteID : String} (h : StaysBelow suiteID) {cwd : WorkDir}
    {dir : List String} (hdir : IsSuitesDir cwd dir) :
    ∃ dir', IsSuitesDir cwd dir' ∧ dir' <+: landsAt dir suiteID := by
  rcases h with hzero | ⟨hhead, hup⟩
  · refine ⟨dir, hdir, ?_⟩
    rw [landsAt, hzero, List.rdrop_zero, List.append_assoc]
    exact List.prefix_append _ _
  · rw [← List.head?_reverse] at hhead
    obtain ⟨rest, hrest⟩ := List.head?_eq_some_iff.1 hhead
    obtain ⟨k, hk⟩ : ∃ k, (relative suiteID).1 = k + 1 := ⟨(relative suiteID).1 - 1, by omega⟩
    -- the directory that the id comes down into
    have hdown : ∀ es : List String,
        es.rdrop k ++ ["test-suites"] <+: landsAt (es ++ ["test-suites"]) suiteID := by
      intro es
      rw [landsAt_concat hk, hrest]
      exact ⟨rest ++ ["suite.json"], by simp⟩
    rcases hdir with rfl | ⟨es, hes, rfl⟩
    · refine ⟨_, ?_, hdown homeDir⟩
      rcases hup with hone | hfour
      · have hk0 : k = 0 := by omega
        rw [hk0, List.rdrop_zero]
        exact Or.inl rfl
      · have hnil : homeDir.rdrop k = [] := by
          have hlen : homeDir.length - k = 0 := by simp [homeDir]; omega
          rw [List.rdrop, hlen, List.take_zero]
        rw [hnil]
        exact Or.inr ⟨[], List.nil_prefix, rfl⟩
    · exact ⟨_, Or.inr ⟨es.rdrop k, (List.take_prefix _ _).trans hes, rfl⟩, hdown es⟩

/-- **The lookup of a suite is confined exactly for the built-in suites and the ids that stay
below.** -/
theorem lookupConfined_iff (suiteID : String) :
    LookupConfined suiteID ↔ isVishwaSuite suiteID = true ∨ StaysBelow suiteID := by
  constructor
  · intro h
    by_cases hv : isVishwaSuite suiteID = true
    · exact Or.inl hv
    · rw [Bool.not_eq_true] at hv
      refine Or.inr ?_
      by_cases hzero : (relative suiteID).1 = 0
      · exact Or.inl hzero
      · obtain ⟨k, hk⟩ := Nat.exists_eq_succ_of_ne_zero hzero
        exact Or.inr ⟨h.comes_down hv hk, h.steps_up hv hk⟩
  · rintro (hv | hstays)
    · -- a built-in suite is not looked up
      intro cwd getwd stat read _ p hp
      rw [lookupPaths, if_pos hv] at hp
      cases hp
    · exact lookupConfined_of_forall fun _ _ hdir => hstays.exists_prefix hdir

/-- A directory that a service may be started in. -/
def serviceDir : WorkDir where
  elems := ["srv", "dvf"]
  isElem := by decide

/-- **An id that leads out**: from `/srv/dvf`, a suite file below `/tmp` is found and read. -/
theorem suite_read_from_tmp :
    lookupPaths (some serviceDir.path) (· == "/tmp/x/suite.json") (fun _ => .ok "\x7b\x7d")
        "../../../tmp/x" = ["/tmp/x/suite.json", "/tmp/x/suite.json"] ∧
      ∀ dir ∈ suitesDirs serviceDir, ¬ LiesBelow serviceDir dir "/tmp/x/suite.json" := by
  constructor
  · decide +kernel
  · decide +kernel

end Dvf
