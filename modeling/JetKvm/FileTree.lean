import Mathlib.Data.List.Induction
import Mathlib.Data.List.Sort
import Mathlib.Data.String.Basic

/-!
# File trees

A file system as a program meets it through system calls: directories, files,
symbolic links and other nodes at places, a place being the names on the way
from the root.  Paths are followed name by name and link by link.  An operation
either succeeds or leaves the tree as it was, and only the ordinary reasons make
one fail: nothing at the path, something else there, a directory in use.
-/

namespace JetKvm

/-- A link holds a text, and the text is followed only when a path leads
through it. -/
inductive Node where
  | directory
  | file (content : List UInt8)
  | symlink (text : List UInt8)
  | device
  | other
  deriving DecidableEq, Repr

inductive Errno where
  | noEntry
  | notDirectory
  | isDirectory
  | alreadyExists
  | notEmpty
  | linkLoop
  | busy
  | noDevice
  | invalid
  deriving DecidableEq, Repr

structure Mount where
  point : List String
  source : String
  fsType : String
  deriving DecidableEq, Repr

/-- `names` bounds the names in use, so that a directory can be listed. -/
structure FileTree where
  node : List String → Option Node
  names : List String
  mounts : List Mount
  root : node [] = some .directory
  closed : ∀ place name, node (place ++ [name]) ≠ none →
    node place = some .directory
  named : ∀ place name, node (place ++ [name]) ≠ none → name ∈ names
  sorted : names.Pairwise (· < ·)

namespace FileTree

/-! ### Following a path -/

inductive Step where
  | here
  | up
  | down (name : String)
  deriving DecidableEq, Repr

/-- The name with these bytes as its characters. -/
def nameOf (bytes : List UInt8) : String :=
  String.ofList (bytes.map fun byte => Char.ofNat byte.toNat)

def stepOf (bytes : List UInt8) : Step :=
  match nameOf bytes with
  | "" => .here
  | "." => .here
  | ".." => .up
  | name => .down name

def isAbsolute (text : List UInt8) : Bool :=
  text.head? = some 47

/-- The steps a text spells, between the slashes it has. -/
def stepsOf (text : List UInt8) : List Step :=
  (text.splitOn 47).map stepOf

/-- Where the steps from a directory lead, with `follow` for those behind a
link.  A lenient walk may end at a node that is no directory, or where there is
none yet. -/
def walkWith (node : List String → Option Node) (lenient : Bool)
    (follow : List String → List Step → Except Errno (List String)) :
    List String → List Step → Except Errno (List String)
  | base, [] => .ok base
  | base, .here :: steps => walkWith node lenient follow base steps
  | base, .up :: steps => walkWith node lenient follow base.dropLast steps
  | base, .down name :: steps =>
      match node (base ++ [name]) with
      | some .directory =>
          walkWith node lenient follow (base ++ [name]) steps
      | some (.symlink text) =>
          follow (if isAbsolute text then [] else base) (stepsOf text ++ steps)
      | none =>
          if lenient ∧ steps = [] then .ok (base ++ [name]) else .error .noEntry
      | some _ =>
          if lenient ∧ steps = [] then .ok (base ++ [name])
          else .error .notDirectory

/-- A walk through at most `links` links. -/
def walk (node : List String → Option Node) (lenient : Bool) :
    Nat → List String → List Step → Except Errno (List String)
  | 0 => walkWith node lenient fun _ _ => .error .linkLoop
  | links + 1 => walkWith node lenient (walk node lenient links)

/-- How many links a path may lead through. -/
def maxLinks : Nat := 40

variable (tree : FileTree)

/-- The directory at the path. -/
def dirAt (path : List String) : Except Errno (List String) :=
  walk tree.node false maxLinks [] (path.map .down)

/-- What a path leads to, through a link at its end too. -/
def resolve (path : List String) : Except Errno (List String) :=
  walk tree.node true maxLinks [] (path.map .down)

/-- The place a path names, which may be empty or hold a link. -/
def placeOf (path : List String) : Except Errno (List String) :=
  match path.getLast? with
  | none => .ok []
  | some name => (tree.dirAt path.dropLast).map (· ++ [name])

def nodeAt (place : List String) : Except Errno Node :=
  match tree.node place with
  | some node => .ok node
  | none => .error .noEntry

def lstat (path : List String) : Except Errno Node :=
  tree.placeOf path >>= tree.nodeAt

def stat (path : List String) : Except Errno Node :=
  tree.resolve path >>= tree.nodeAt

def readlink (path : List String) : Except Errno (List UInt8) :=
  match tree.lstat path with
  | .ok (.symlink text) => .ok text
  | .ok _ => .error .invalid
  | .error errno => .error errno

def readFile (path : List String) : Except Errno (List UInt8) :=
  match tree.stat path with
  | .ok (.file content) => .ok content
  | .ok .directory => .error .isDirectory
  | .ok _ => .error .invalid
  | .error errno => .error errno

/-- What is in a directory, in the order of the names. -/
def entries (place : List String) : List (String × Node) :=
  tree.names.filterMap fun name =>
    (tree.node (place ++ [name])).map fun node => (name, node)

/-- The links in a directory, with their texts. -/
def links (place : List String) : List (String × List UInt8) :=
  (tree.entries place).filterMap fun file =>
    match file.2 with
    | .symlink text => some (file.1, text)
    | _ => none

def readDir (path : List String) : Except Errno (List (String × Node)) :=
  (tree.dirAt path).map tree.entries

/-! ### Walks and what they depend on -/

section Walks

variable {node other : List String → Option Node} {lenient : Bool}
variable {links : Nat} {base place reached : List String} {steps more : List Step}

@[simp]
theorem walk_nil : walk node lenient links base [] = .ok base := by
  cases links <;> rfl

@[simp]
theorem walk_here : walk node lenient links base (.here :: steps) =
    walk node lenient links base steps := by
  cases links <;> rfl

@[simp]
theorem walk_up : walk node lenient links base (.up :: steps) =
    walk node lenient links base.dropLast steps := by
  cases links <;> rfl

theorem walk_directory {name : String}
    (directory : node (base ++ [name]) = some .directory) :
    walk node lenient links base (.down name :: steps) =
      walk node lenient links (base ++ [name]) steps := by
  cases links <;> simp [walk, walkWith, directory]

theorem walk_symlink {name : String} {text : List UInt8}
    (link : node (base ++ [name]) = some (.symlink text)) :
    walk node lenient (links + 1) base (.down name :: steps) =
      walk node lenient links (if isAbsolute text then [] else base)
        (stepsOf text ++ steps) := by
  simp [walk, walkWith, link]

theorem walk_symlink_zero {name : String} {text : List UInt8}
    (link : node (base ++ [name]) = some (.symlink text)) :
    walk node lenient 0 base (.down name :: steps) = .error .linkLoop := by
  simp [walk, walkWith, link]

/-- A walk goes on at directories and links only. -/
def Leads (node : Option Node) : Prop :=
  node = some .directory ∨ ∃ text, node = some (.symlink text)

theorem walk_end {name : String} (ends : ¬ Leads (node (base ++ [name]))) :
    walk node lenient links base (.down name :: steps) =
      if lenient ∧ steps = [] then .ok (base ++ [name])
      else .error
        (if node (base ++ [name]) = none then .noEntry else .notDirectory) := by
  have unfolded : ∀ follow, walkWith node lenient follow base
      (.down name :: steps) =
        if lenient ∧ steps = [] then .ok (base ++ [name])
        else .error
          (if node (base ++ [name]) = none then .noEntry else .notDirectory) := by
    intro follow
    cases found : node (base ++ [name]) with
    | none => simp [walkWith, found]
    | some kind =>
        cases kind with
        | directory => exact absurd (Or.inl found) ends
        | symlink text => exact absurd (Or.inr ⟨text, found⟩) ends
        | _ => simp [walkWith, found]
  cases links <;> exact unfolded _

/-- The ways a walk goes on, and the two it ends. -/
theorem walk_induction {motive : Nat → List String → List Step → Prop}
    (node : List String → Option Node)
    (nil : ∀ links base, motive links base [])
    (here : ∀ links base steps, motive links base steps →
      motive links base (.here :: steps))
    (up : ∀ links base steps, motive links base.dropLast steps →
      motive links base (.up :: steps))
    (directory : ∀ links base name steps,
      node (base ++ [name]) = some .directory →
      motive links (base ++ [name]) steps →
      motive links base (.down name :: steps))
    (symlink : ∀ links base name text steps,
      node (base ++ [name]) = some (.symlink text) →
      motive links (if isAbsolute text then [] else base)
        (stepsOf text ++ steps) →
      motive (links + 1) base (.down name :: steps))
    (linkLoop : ∀ base name text steps,
      node (base ++ [name]) = some (.symlink text) →
      motive 0 base (.down name :: steps))
    (ends : ∀ links base name steps, ¬ Leads (node (base ++ [name])) →
      motive links base (.down name :: steps))
    (links : Nat) (base : List String) (steps : List Step) :
    motive links base steps := by
  induction links generalizing base steps with
  | zero =>
      induction steps generalizing base with
      | nil => exact nil 0 base
      | cons step steps ih =>
          cases step with
          | here => exact here 0 base steps (ih base)
          | up => exact up 0 base steps (ih base.dropLast)
          | down name =>
              by_cases leads : Leads (node (base ++ [name]))
              · rcases leads with found | ⟨text, found⟩
                · exact directory 0 base name steps found (ih _)
                · exact linkLoop base name text steps found
              · exact ends 0 base name steps leads
  | succ links fewer =>
      induction steps generalizing base with
      | nil => exact nil (links + 1) base
      | cons step steps ih =>
          cases step with
          | here => exact here (links + 1) base steps (ih base)
          | up => exact up (links + 1) base steps (ih base.dropLast)
          | down name =>
              by_cases leads : Leads (node (base ++ [name]))
              · rcases leads with found | ⟨text, found⟩
                · exact directory (links + 1) base name steps found (ih _)
                · exact symlink links base name text steps found (fewer _ _)
              · exact ends (links + 1) base name steps leads

/-- The ways a walk goes on that gets through. -/
theorem walk_ok_induction {motive : Nat → List String → List Step → Prop}
    (nil : ∀ links, motive links place [])
    (here : ∀ links base steps, motive links base steps →
      motive links base (.here :: steps))
    (up : ∀ links base steps, motive links base.dropLast steps →
      motive links base (.up :: steps))
    (directory : ∀ links base name steps,
      node (base ++ [name]) = some .directory →
      motive links (base ++ [name]) steps →
      motive links base (.down name :: steps))
    (symlink : ∀ links base name text steps,
      node (base ++ [name]) = some (.symlink text) →
      motive links (if isAbsolute text then [] else base)
        (stepsOf text ++ steps) →
      motive (links + 1) base (.down name :: steps))
    (walked : walk node false links base steps = .ok place) :
    motive links base steps := by
  revert walked
  refine walk_induction (motive := fun links base steps =>
    walk node false links base steps = .ok place → motive links base steps)
    node ?_ ?_ ?_ ?_ ?_ ?_ ?_ links base steps
  · intro links base walked
    rw [walk_nil, Except.ok.injEq] at walked
    exact walked ▸ nil links
  · exact fun links base steps ih walked =>
      here links base steps (ih (by simpa using walked))
  · exact fun links base steps ih walked =>
      up links base steps (ih (by simpa using walked))
  · intro links base name steps found ih walked
    rw [walk_directory found] at walked
    exact directory links base name steps found (ih walked)
  · intro links base name text steps found ih walked
    rw [walk_symlink found] at walked
    exact symlink links base name text steps found (ih walked)
  · intro base name text steps found walked
    rw [walk_symlink_zero found] at walked
    cases walked
  · intro links base name steps ends walked
    rw [walk_end ends] at walked
    simp at walked

/-- A walk along two paths, one after the other. -/
theorem walk_append
    (walked : walk node false links base steps = .ok place) :
    ∃ left, ∀ lenient more, walk node lenient links base (steps ++ more) =
      walk node lenient left place more := by
  refine walk_ok_induction (motive := fun links base steps =>
    ∃ left, ∀ lenient more, walk node lenient links base (steps ++ more) =
      walk node lenient left place more) ?_ ?_ ?_ ?_ ?_ walked
  · exact fun links => ⟨links, fun lenient more => rfl⟩
  · intro links base steps ih
    simpa using ih
  · intro links base steps ih
    simpa using ih
  · rintro links base name steps found ⟨left, rest⟩
    exact ⟨left, fun lenient more => by
      rw [List.cons_append, walk_directory found, rest]⟩
  · rintro links base name text steps found ⟨left, rest⟩
    exact ⟨left, fun lenient more => by
      rw [List.cons_append, walk_symlink found, ← List.append_assoc, rest]⟩

/-- A walk that gets further gets this far. -/
theorem walk_of_append (further : more ≠ [])
    (walked : walk node lenient links base (steps ++ more) = .ok reached) :
    ∃ place, walk node false links base steps = .ok place := by
  revert walked
  refine walk_induction (motive := fun links base steps =>
    walk node lenient links base (steps ++ more) = .ok reached →
      ∃ place, walk node false links base steps = .ok place) node
    ?_ ?_ ?_ ?_ ?_ ?_ ?_ links base steps
  · exact fun links base _ => ⟨base, walk_nil⟩
  · intro links base steps ih walked
    simpa using ih (by simpa using walked)
  · intro links base steps ih walked
    simpa using ih (by simpa using walked)
  · intro links base name steps found ih walked
    rw [List.cons_append, walk_directory found] at walked
    rw [walk_directory found]
    exact ih walked
  · intro links base name text steps found ih walked
    rw [List.cons_append, walk_symlink found, ← List.append_assoc] at walked
    rw [walk_symlink found]
    exact ih walked
  · intro base name text steps found walked
    rw [List.cons_append, walk_symlink_zero found] at walked
    cases walked
  · intro links base name steps ends walked
    rw [List.cons_append, walk_end ends] at walked
    simp [further] at walked

/-- Everything a walk may go through is also in the other tree. -/
def LeadsOn (node other : List String → Option Node) : Prop :=
  ∀ place, Leads (node place) → other place = node place

theorem walk_leadsOn (leadsOn : LeadsOn node other)
    (walked : walk node false links base steps = .ok place) :
    walk other false links base steps = .ok place := by
  refine walk_ok_induction (motive := fun links base steps =>
    walk other false links base steps = .ok place) ?_ ?_ ?_ ?_ ?_ walked
  · exact fun links => walk_nil
  · intro links base steps ih
    simpa using ih
  · intro links base steps ih
    simpa using ih
  · intro links base name steps found ih
    rwa [walk_directory ((leadsOn _ (Or.inl found)).trans found)]
  · intro links base name text steps found ih
    rwa [walk_symlink ((leadsOn _ (Or.inr ⟨text, found⟩)).trans found)]

/-- Once a node is gone, a walk ends where it was or goes as before. -/
theorem walk_update_none (gone : List String)
    (walked : walk node false links base steps = .ok place) :
    walk (Function.update node gone none) false links base steps = .ok place ∨
      walk (Function.update node gone none) false links base steps =
        .error .noEntry := by
  refine walk_ok_induction (motive := fun links base steps =>
    walk (Function.update node gone none) false links base steps = .ok place ∨
      walk (Function.update node gone none) false links base steps =
        .error .noEntry) ?_ ?_ ?_ ?_ ?_ walked
  · exact fun links => Or.inl walk_nil
  · intro links base steps ih
    simpa using ih
  · intro links base steps ih
    simpa using ih
  · intro links base name steps found ih
    by_cases here : base ++ [name] = gone
    · right
      rw [walk_end] <;> simp [here, Leads]
    · rwa [walk_directory ((Function.update_of_ne here ..).trans found)]
  · intro links base name text steps found ih
    by_cases here : base ++ [name] = gone
    · right
      rw [walk_end] <;> simp [here, Leads]
    · rwa [walk_symlink ((Function.update_of_ne here ..).trans found)]

/-- Names that all lead to directories are followed one below the other. -/
theorem walk_down {names : List String}
    (directories : ∀ above, above ≠ [] → above <+: names →
      node (base ++ above) = some .directory) :
    walk node lenient links base (names.map .down) = .ok (base ++ names) := by
  induction names generalizing base with
  | nil => simp
  | cons name names ih =>
      rw [List.map_cons,
        walk_directory (directories [name] (by simp) (by simp)), ih]
      · simp
      · intro above nonempty below
        have further := directories (name :: above) (by simp) (by simpa using below)
        simpa using further

end Walks

/-! ### Changing the tree -/

def insertName (names : List String) (name : String) : List String :=
  if name ∈ names then names else names.orderedInsert (· ≤ ·) name

theorem mem_insertName {names : List String} {name other : String} :
    other ∈ insertName names name ↔ other = name ∨ other ∈ names := by
  unfold insertName
  split
  · rename_i member
    exact ⟨Or.inr, fun either => either.elim (fun same => same ▸ member) id⟩
  · exact List.mem_orderedInsert _

theorem sorted_insertName {names : List String} {name : String}
    (sorted : names.Pairwise (· < ·)) :
    (insertName names name).Pairwise (· < ·) := by
  unfold insertName
  split
  · exact sorted
  · rename_i fresh
    have weak : names.Pairwise (· ≤ ·) := sorted.imp le_of_lt
    have distinct : (names.orderedInsert (· ≤ ·) name).Nodup := by
      rw [(List.perm_orderedInsert (· ≤ ·) name names).nodup_iff]
      exact List.nodup_cons.mpr ⟨fresh, sorted.imp ne_of_lt⟩
    exact (weak.orderedInsert name names).imp₂
      (fun _ _ le ne => lt_of_le_of_ne le ne) distinct

theorem mem_foldl_insertName {names added : List String} {other : String} :
    other ∈ added.foldl insertName names ↔ other ∈ added ∨ other ∈ names := by
  induction added generalizing names with
  | nil => simp
  | cons name added ih =>
      rw [List.foldl_cons, ih, mem_insertName, List.mem_cons]
      tauto

theorem sorted_foldl_insertName {names added : List String}
    (sorted : names.Pairwise (· < ·)) :
    (added.foldl insertName names).Pairwise (· < ·) := by
  induction added generalizing names with
  | nil => exact sorted
  | cons name added ih => exact ih (sorted_insertName sorted)

/-- Nothing but the root. -/
def empty : FileTree where
  node place := if place = [] then some .directory else none
  names := []
  mounts := []
  root := rfl
  closed place name present := by simp at present
  named place name present := by simp at present
  sorted := List.Pairwise.nil

/-- Write a node that is no directory, or an empty directory, at a place that
holds no directory. -/
def put (place : List String) (name : String) (node : Node) :
    Except Errno FileTree :=
  if parent : tree.node place ≠ some .directory then .error .notDirectory
  else if inUse : tree.node (place ++ [name]) = some .directory then
    .error .isDirectory
  else .ok
    { node := Function.update tree.node (place ++ [name]) (some node)
      names := insertName tree.names name
      mounts := tree.mounts
      root := by
        rw [Function.update_of_ne (by simp), tree.root]
      closed := by
        intro above below present
        by_cases own : above = place ++ [name]
        · subst own
          rw [Function.update_of_ne (by simp)] at present
          exact absurd (tree.closed _ _ present) inUse
        · rw [Function.update_of_ne own]
          by_cases same : above ++ [below] = place ++ [name]
          · rw [(List.append_inj' same rfl).1]
            exact not_not.mp parent
          · rw [Function.update_of_ne same] at present
            exact tree.closed _ _ present
      named := by
        intro above below present
        rw [mem_insertName]
        by_cases same : above ++ [below] = place ++ [name]
        · exact Or.inl (by simpa using (List.append_inj' same rfl).2)
        · rw [Function.update_of_ne same] at present
          exact Or.inr (tree.named _ _ present)
      sorted := sorted_insertName tree.sorted }

/-- Take away a node that nothing is below. -/
def erase (place : List String) (name : String) : Except Errno FileTree :=
  if inUse : ∃ below ∈ tree.names,
      tree.node (place ++ [name] ++ [below]) ≠ none then .error .notEmpty
  else .ok
    { tree with
      node := Function.update tree.node (place ++ [name]) none
      root := by
        rw [Function.update_of_ne (by simp), tree.root]
      closed := by
        intro above below present
        by_cases same : above ++ [below] = place ++ [name]
        · simp [same] at present
        · rw [Function.update_of_ne same] at present
          rw [Function.update_of_ne]
          · exact tree.closed _ _ present
          · rintro rfl
            exact inUse ⟨below, tree.named _ _ present, present⟩
      named := by
        intro above below present
        by_cases same : above ++ [below] = place ++ [name]
        · simp [same] at present
        · rw [Function.update_of_ne same] at present
          exact tree.named _ _ present }

/-- Make a directory at a path that names nothing yet. -/
def mkdir (path : List String) : Except Errno FileTree := do
  match path.getLast? with
  | none => .error .alreadyExists
  | some name =>
      let place ← tree.dirAt path.dropLast
      if tree.node (place ++ [name]) = none then
        tree.put place name .directory
      else .error .alreadyExists

/-- Make a link with the text at a path that names nothing yet. -/
def symlink (text : List UInt8) (path : List String) :
    Except Errno FileTree := do
  match path.getLast? with
  | none => .error .alreadyExists
  | some name =>
      let place ← tree.dirAt path.dropLast
      if text = [] then .error .noEntry
      else if tree.node (place ++ [name]) = none then
        tree.put place name (.symlink text)
      else .error .alreadyExists

/-- Write the content to what the path leads to, making a file if there is
nothing yet.  A device takes it and stays as it is. -/
def writeFile (path : List String) (content : List UInt8) :
    Except Errno FileTree := do
  let place ← tree.resolve path
  match place.getLast?, tree.node place with
  | some name, none => tree.put place.dropLast name (.file content)
  | some name, some (.file _) => tree.put place.dropLast name (.file content)
  | _, some .device => .ok tree
  | _, some .other => .error .noDevice
  | _, _ => .error .isDirectory

/-- Take away what the path names, if it is no directory in use. -/
def remove (path : List String) : Except Errno FileTree := do
  match path.getLast? with
  | none => .error .busy
  | some name =>
      let place ← tree.dirAt path.dropLast
      if tree.node (place ++ [name]) = none then .error .noEntry
      else if tree.node (place ++ [name]) = some .directory ∧
          ∃ mount ∈ tree.mounts, mount.point = place ++ [name] then
        .error .busy
      else tree.erase place name

/-- Cover what is below a directory with another tree. -/
def mountAt (place : List String) (source fsType : String)
    (covering : FileTree) : Except Errno FileTree :=
  if directory : tree.node place ≠ some .directory then .error .notDirectory
  else .ok
    { node := fun below =>
        if place <+: below then covering.node (below.drop place.length)
        else tree.node below
      names := covering.names.foldl insertName tree.names
      mounts := tree.mounts ++ [{ point := place, source, fsType }]
      root := by
        by_cases under : place <+: []
        · rw [if_pos under, List.prefix_nil.mp under]
          exact covering.root
        · rw [if_neg under, tree.root]
      closed := by
        intro above below present
        by_cases under : place <+: above
        · rw [if_pos (under.trans (List.prefix_append _ _)),
            List.drop_append_of_le_length under.length_le] at present
          rw [if_pos under]
          exact covering.closed _ _ present
        · rw [if_neg under]
          by_cases own : place <+: above ++ [below]
          · have here : place = above ++ [below] :=
              (List.prefix_concat_iff.mp own).resolve_right under
            rw [here, not_not] at directory
            exact tree.closed _ _ (by rw [directory]; simp)
          · rw [if_neg own] at present
            exact tree.closed _ _ present
      named := by
        intro above below present
        rw [mem_foldl_insertName]
        by_cases under : place <+: above
        · rw [if_pos (under.trans (List.prefix_append _ _)),
            List.drop_append_of_le_length under.length_le] at present
          exact Or.inl (covering.named _ _ present)
        · right
          by_cases own : place <+: above ++ [below]
          · have here : place = above ++ [below] :=
              (List.prefix_concat_iff.mp own).resolve_right under
            rw [here, not_not] at directory
            exact tree.named _ _ (by rw [directory]; simp)
          · rw [if_neg own] at present
            exact tree.named _ _ present
      sorted := sorted_foldl_insertName tree.sorted }

/-- Make the last directory of a path, once those above it are there.  What is
already there may be a directory. -/
def mkdirLast (path : List String) : FileTree × Option Errno :=
  match tree.mkdir path with
  | .ok later => (later, none)
  | .error errno =>
      match tree.lstat path with
      | .ok .directory => (tree, none)
      | _ => (tree, some errno)

/-- Make the directories missing on a path, given from its end, from the top
down. -/
def mkdirAllOf : List String → FileTree → FileTree × Option Errno
  | [], tree => (tree, none)
  | name :: above, tree =>
      match tree.stat (above.reverse ++ [name]) with
      | .ok .directory => (tree, none)
      | .ok _ => (tree, some .notDirectory)
      | .error _ =>
          match mkdirAllOf above tree with
          | (later, some errno) => (later, some errno)
          | (later, none) => later.mkdirLast (above.reverse ++ [name])

/-- The directories it made stay when it fails further down. -/
def mkdirAll (path : List String) : FileTree × Option Errno :=
  mkdirAllOf path.reverse tree

/-! ### Places -/

section Places

variable {tree : FileTree} {path place above : List String} {name : String}
variable {kind : Node}

@[simp]
theorem placeOf_append : tree.placeOf (path ++ [name]) =
    (tree.dirAt path).map (· ++ [name]) := by
  simp [placeOf]

theorem placeOf_append_of_dirAt (directory : tree.dirAt path = .ok place) :
    tree.placeOf (path ++ [name]) = .ok (place ++ [name]) := by
  rw [placeOf_append, directory]
  rfl

theorem lstat_of_placeOf (named : tree.placeOf path = .ok place) :
    tree.lstat path = tree.nodeAt place := by
  rw [lstat, named]
  rfl

theorem nodeAt_eq_ok : tree.nodeAt place = .ok kind ↔
    tree.node place = some kind := by
  unfold nodeAt
  cases tree.node place <;> simp

theorem nodeAt_eq_noEntry : tree.nodeAt place = .error .noEntry ↔
    tree.node place = none := by
  unfold nodeAt
  cases tree.node place <;> simp

theorem lstat_eq_ok : tree.lstat path = .ok kind ↔
    ∃ place, tree.placeOf path = .ok place ∧ tree.node place = some kind := by
  cases named : tree.placeOf path with
  | error errno => simp [lstat, named, Bind.bind, Except.bind]
  | ok place => simp [lstat_of_placeOf named, nodeAt_eq_ok]

theorem stat_eq_ok : tree.stat path = .ok kind ↔
    ∃ place, tree.resolve path = .ok place ∧ tree.node place = some kind := by
  cases named : tree.resolve path with
  | error errno => simp [stat, named, Bind.bind, Except.bind]
  | ok place =>
      have led : tree.stat path = tree.nodeAt place := by
        rw [stat, named]
        rfl
      simp [led, nodeAt_eq_ok]

/-- All that is above a node is directories. -/
theorem node_of_prefix (present : tree.node place ≠ none)
    (below : above <+: place) (proper : above ≠ place) :
    tree.node above = some .directory := by
  induction place using List.reverseRecOn with
  | nil => exact absurd (List.prefix_nil.mp below) proper
  | append_singleton place name ih =>
      have parent := tree.closed _ _ present
      rcases List.prefix_concat_iff.mp below with same | further
      · exact absurd same proper
      · by_cases same : above = place
        · rw [same, parent]
        · exact ih (by rw [parent]; simp) further same

theorem dirAt_of_node (directory : tree.node path = some .directory) :
    tree.dirAt path = .ok path := by
  refine walk_down ?_
  intro above nonempty below
  rw [List.nil_append]
  by_cases same : above = path
  · rw [same, directory]
  · exact node_of_prefix (by rw [directory]; simp) below same

theorem placeOf_of_node (present : tree.node path ≠ none) :
    tree.placeOf path = .ok path := by
  rcases List.eq_nil_or_concat path with rfl | ⟨above, name, rfl⟩
  · rfl
  · rw [List.concat_eq_append] at present ⊢
    exact placeOf_append_of_dirAt (dirAt_of_node (tree.closed _ _ present))

theorem node_of_walk {links : Nat} {base : List String} {steps : List Step}
    (start : tree.node base = some .directory)
    (walked : walk tree.node false links base steps = .ok place) :
    tree.node place = some .directory := by
  revert start
  refine walk_ok_induction (motive := fun links base steps =>
    tree.node base = some .directory → tree.node place = some .directory)
    ?_ ?_ ?_ ?_ ?_ walked
  · exact fun links start => start
  · exact fun links base steps ih start => ih start
  · intro links base steps ih start
    refine ih ?_
    rcases List.eq_nil_or_concat base with rfl | ⟨above, name, rfl⟩
    · exact start
    · rw [List.concat_eq_append] at start ⊢
      rw [List.dropLast_concat]
      exact tree.closed _ _ (by rw [start]; simp)
  · exact fun links base name steps found ih start => ih found
  · intro links base name text steps found ih start
    refine ih ?_
    split
    · exact tree.root
    · exact start

theorem node_of_dirAt (directory : tree.dirAt path = .ok place) :
    tree.node place = some .directory :=
  node_of_walk tree.root directory

theorem resolve_of_dirAt (directory : tree.dirAt path = .ok place) :
    tree.resolve path = .ok place := by
  obtain ⟨left, further⟩ := walk_append directory
  have whole := further true []
  rwa [List.append_nil, walk_nil] at whole

/-- Below a directory a path leads to what it names, unless that is a link. -/
theorem resolve_of_placeOf (named : tree.placeOf path = .ok place)
    (noLink : ∀ text, tree.node place ≠ some (.symlink text)) :
    tree.resolve path = .ok place := by
  rcases List.eq_nil_or_concat path with rfl | ⟨above, name, rfl⟩
  · rw [← named]
    exact walk_nil
  rw [List.concat_eq_append] at named ⊢
  rw [placeOf_append] at named
  cases directory : tree.dirAt above with
  | error errno => simp [directory, Except.map] at named
  | ok parent =>
      rw [directory, Except.map, Except.ok.injEq] at named
      obtain ⟨left, further⟩ := walk_append directory
      rw [resolve, List.map_append, further]
      by_cases found : tree.node (parent ++ [name]) = some .directory
      · rw [List.map_singleton, walk_directory found, walk_nil, named]
      · rw [List.map_singleton, walk_end, if_pos (by simp), named]
        rintro (yes | ⟨text, yes⟩)
        · exact found yes
        · exact noLink text (named ▸ yes)

theorem stat_of_lstat (seen : tree.lstat path = .ok kind)
    (noLink : ∀ text, kind ≠ .symlink text) : tree.stat path = .ok kind := by
  obtain ⟨place, named, here⟩ := lstat_eq_ok.mp seen
  refine stat_eq_ok.mpr ⟨place, resolve_of_placeOf named ?_, here⟩
  intro text same
  rw [here, Option.some.injEq] at same
  exact noLink text same

theorem readFile_of_lstat {content : List UInt8}
    (seen : tree.lstat path = .ok (.file content)) :
    tree.readFile path = .ok content := by
  rw [readFile, stat_of_lstat seen (by simp)]

theorem placeOf_append_ok (named : tree.placeOf (path ++ [name]) = .ok place) :
    ∃ parent, tree.dirAt path = .ok parent ∧ place = parent ++ [name] := by
  rw [placeOf_append] at named
  cases parentAt : tree.dirAt path with
  | error errno => simp [parentAt, Except.map] at named
  | ok parent =>
      rw [parentAt, Except.map, Except.ok.injEq] at named
      exact ⟨parent, rfl, named.symm⟩

theorem dirAt_append (directory : tree.dirAt path = .ok place)
    (below : tree.node (place ++ [name]) = some .directory) :
    tree.dirAt (path ++ [name]) = .ok (place ++ [name]) := by
  obtain ⟨left, further⟩ := walk_append directory
  rw [dirAt, List.map_append, further, List.map_singleton,
    walk_directory below, walk_nil]

theorem dirAt_of_placeOf (named : tree.placeOf path = .ok place)
    (directory : tree.node place = some .directory) :
    tree.dirAt path = .ok place := by
  rcases List.eq_nil_or_concat path with rfl | ⟨above, name, rfl⟩
  · rw [← named]
    exact walk_nil
  rw [List.concat_eq_append] at named ⊢
  rw [placeOf_append] at named
  cases parentAt : tree.dirAt above with
  | error errno => simp [parentAt, Except.map] at named
  | ok parent =>
      rw [parentAt, Except.map, Except.ok.injEq] at named
      subst named
      exact dirAt_append parentAt directory

theorem placeOf_of_dirAt (directory : tree.dirAt path = .ok place) :
    ∃ named, tree.placeOf path = .ok named := by
  rcases List.eq_nil_or_concat path with rfl | ⟨above, name, rfl⟩
  · exact ⟨[], rfl⟩
  rw [List.concat_eq_append] at directory ⊢
  rw [dirAt, List.map_append] at directory
  obtain ⟨parent, aboveAt⟩ := walk_of_append (by simp) directory
  exact ⟨parent ++ [name], placeOf_append_of_dirAt aboveAt⟩

theorem readlink_of_lstat {text : List UInt8}
    (seen : tree.lstat path = .ok (.symlink text)) :
    tree.readlink path = .ok text := by
  rw [readlink, seen]

theorem mem_entries {file : String × Node} :
    file ∈ tree.entries place ↔ tree.node (place ++ [file.1]) = some file.2 := by
  obtain ⟨name, kind⟩ := file
  simp only [entries, List.mem_filterMap, Option.map_eq_some_iff,
    Prod.mk.injEq]
  constructor
  · rintro ⟨name, -, kind, present, rfl, rfl⟩
    exact present
  · intro present
    exact ⟨name, tree.named _ _ (by rw [present]; simp), kind, present, rfl, rfl⟩

theorem pairwise_entries :
    (tree.entries place).Pairwise fun file other => file.1 < other.1 := by
  refine List.Pairwise.filterMap _ ?_ tree.sorted
  intro name other before file fileAt otherFile otherAt
  rw [Option.map_eq_some_iff] at fileAt otherAt
  obtain ⟨kind, -, rfl⟩ := fileAt
  obtain ⟨otherKind, -, rfl⟩ := otherAt
  exact before

theorem mem_links {link : String × List UInt8} :
    link ∈ tree.links place ↔
      tree.node (place ++ [link.1]) = some (.symlink link.2) := by
  simp only [links, List.mem_filterMap, mem_entries]
  constructor
  · rintro ⟨⟨name, kind⟩, present, found⟩
    cases kind <;> simp at found
    rw [← found]
    exact present
  · intro present
    exact ⟨(link.1, .symlink link.2), present, rfl⟩

theorem pairwise_links :
    (tree.links place).Pairwise fun link other => link.1 < other.1 := by
  refine List.Pairwise.filterMap _ ?_ pairwise_entries
  intro file other before link linkAt otherLink otherAt
  obtain ⟨name, kind⟩ := file
  obtain ⟨otherName, otherKind⟩ := other
  cases kind <;> simp at linkAt
  cases otherKind <;> simp at otherAt
  rw [← linkAt, ← otherAt]
  exact before

/-- What a path leads to it also names, or there is a link in between. -/
theorem placeOf_of_resolve (led : tree.resolve path = .ok place) :
    ∃ named, tree.placeOf path = .ok named := by
  rcases List.eq_nil_or_concat path with rfl | ⟨above, name, rfl⟩
  · exact ⟨[], rfl⟩
  rw [List.concat_eq_append] at led ⊢
  rw [resolve, List.map_append] at led
  obtain ⟨parent, directory⟩ := walk_of_append (by simp) led
  exact ⟨parent ++ [name], placeOf_append_of_dirAt directory⟩

end Places

end FileTree

end JetKvm
