import ClientForge.Files.Path
import ClientForge.Text.Quoted

/-!
A file system without links, as a value: what stands at each path.
-/

namespace ClientForge

inductive FileEntry
  | file (content : List UInt8)
  | directory
deriving DecidableEq, Repr

inductive FileFault
  | exists (path : String)
  | notDirectory (path : String)
  | isDirectory (source target : String)
  | nameTooLong (path : String)
  | tooDeep
deriving DecidableEq, Repr

def FileFault.message : FileFault → String
  | .exists path => "[Errno 17] File exists: " ++ path.shown
  | .notDirectory path => "[Errno 20] Not a directory: " ++ path.shown
  | .isDirectory source target => "[Errno 21] Is a directory: " ++ source.shown ++ " -> " ++ target.shown
  | .nameTooLong path => "[Errno 36] File name too long: " ++ path.shown
  | .tooDeep => "too many directories are missing"

structure FileTree where
  entries : List (Path × FileEntry)
deriving Repr

namespace FileTree

def get? (t : FileTree) (p : Path) : Option FileEntry := if p = [] then some .directory else t.entries.lookup p

def put (p : Path) (entry : FileEntry) : List (Path × FileEntry) → List (Path × FileEntry)
  | [] => [(p, entry)]
  | e :: rest => if p = e.1 then (p, entry) :: rest else e :: put p entry rest

def set (t : FileTree) (p : Path) (entry : FileEntry) : FileTree := ⟨put p entry t.entries⟩

def remove (t : FileTree) (p : Path) : FileTree := ⟨t.entries.filter (·.1 ≠ p)⟩

theorem lookup_cons (q : Path) (e : Path × FileEntry) (rest : List (Path × FileEntry)) :
    (e :: rest).lookup q = if q = e.1 then some e.2 else rest.lookup q := by
  obtain ⟨p, entry⟩ := e
  by_cases h : q = p
  · simp [h]
  · simp [List.lookup_cons, h, beq_false_of_ne h]

theorem lookup_put (p q : Path) (entry : FileEntry) (entries : List (Path × FileEntry)) :
    (put p entry entries).lookup q = if q = p then some entry else entries.lookup q := by
  induction entries with
  | nil => simp [put, lookup_cons]
  | cons e rest ih =>
    by_cases he : p = e.1
    · simp only [put, he, if_true, lookup_cons]
      split <;> rfl
    · simp only [put, he, if_false, lookup_cons, ih]
      by_cases h : q = p
      · simp [h, he]
      · simp [h]

theorem get?_set (t : FileTree) (p q : Path) (entry : FileEntry) (hp : p ≠ []) :
    (t.set p entry).get? q = if q = p then some entry else t.get? q := by
  by_cases hq : q = []
  · subst hq
    simp [get?, hp.symm]
  · simp [get?, set, hq, lookup_put]

theorem lookup_remove (p q : Path) (entries : List (Path × FileEntry)) :
    (entries.filter (·.1 ≠ p)).lookup q = if q = p then none else entries.lookup q := by
  induction entries with
  | nil => simp
  | cons e rest ih =>
    by_cases he : e.1 = p
    · simp only [List.filter_cons, he, ne_eq, not_true_eq_false, decide_false, Bool.false_eq_true, if_false,
        lookup_cons, ih]
      split <;> rfl
    · simp only [List.filter_cons, he, ne_eq, not_false_eq_true, decide_true, if_true, lookup_cons, ih]
      by_cases h : q = p
      · simp [h, Ne.symm he]
      · simp [h]

theorem get?_remove (t : FileTree) (p q : Path) (hq : q ≠ []) :
    (t.remove p).get? q = if q = p then none else t.get? q := by
  simp only [get?, remove, hq, if_false]
  exact lookup_remove p q t.entries

def isDirectory (t : FileTree) (p : Path) : Bool := t.get? p = some .directory

def isFile (t : FileTree) (p : Path) : Bool :=
  match t.get? p with
  | some (.file _) => true
  | _ => false

def content? (t : FileTree) (p : Path) : Option (List UInt8) :=
  match t.get? p with
  | some (.file content) => some content
  | _ => none

def steps (p : Path) : List Path := (List.range p.length).map fun k => p.take (k + 1)

/-- How far names lead: to what stands there, or to a directory in which the first of the names left is missing. -/
inductive Way
  | found (p : Path)
  | missing (p : Path) (rest : List String)
  | notDirectory
  | nameTooLong
deriving Repr

def way (t : FileTree) : Path → List String → Way
  | p, [] => .found p
  | p, name :: rest =>
    if !t.isDirectory p then .notDirectory
    else if Location.maxName < name.utf8ByteSize then .nameTooLong
    else if (t.get? (Path.step p name)).isNone then .missing p (name :: rest)
    else way t (Path.step p name) rest

def makeBelow (t : FileTree) (l : Location) (before : List String) (p : Path) :
    List String → FileTree × Option FileFault
  | [] => (t, none)
  | name :: rest =>
    let here := before ++ [name]
    let q := Path.step p name
    if Location.maxName < name.utf8ByteSize then (t, some (.nameTooLong { l with names := here }.text))
    else match t.get? q with
      | some (.file _) => (t, some (.exists { l with names := here }.text))
      | some .directory => makeBelow t l here q rest
      | none => makeBelow (t.set q .directory) l here q rest

def maxMissing : Nat := 985

/-- Makes a directory and all that are missing above it, from the outermost one on; one that exists is left as it
is. -/
def makeDirectories (t : FileTree) (l : Location) : FileTree × Option FileFault :=
  if l.isTooLong then (t, some (.nameTooLong l.text))
  else match t.way l.start l.names with
    | .found p => if t.isDirectory p then (t, none) else (t, some (.exists l.text))
    | .notDirectory => (t, some (.notDirectory l.text))
    | .nameTooLong => (t, some (.nameTooLong l.text))
    | .missing p rest =>
      if maxMissing < rest.length then (t, some .tooDeep)
      else makeBelow t l (l.names.take (l.names.length - rest.length)) p rest

def move (t : FileTree) (source target : Path) : Except FileFault FileTree :=
  match t.get? source, t.get? target with
  | _, some .directory => .error (.isDirectory source.text target.text)
  | some entry, _ => .ok ((t.remove source).set target entry)
  | none, _ => .ok t

def temporary (token : String) (p : Path) : Path := p.parent ++ ["." ++ p.name ++ "." ++ token ++ ".tmp"]

/-- Puts a file into its place by way of a temporary one beside it, so that no reader sees half of it. If it cannot
come to its place, the temporary file goes away again. -/
def replaceFile (t : FileTree) (token : String) (p : Path) (content : List UInt8) : FileTree × Option FileFault :=
  match t.makeDirectories (.ofPath p.parent) with
  | (t, some fault) => (t, some fault)
  | (t, none) =>
    let temp := temporary token p
    if Location.maxName < temp.name.utf8ByteSize || (Location.ofPath temp).isTooLong then
      (t, some (.nameTooLong temp.text))
    else
      let full := t.set temp (.file content)
      match full.move temp p with
      | .ok t => (t, none)
      | .error fault => (full.remove temp, some fault)

def replaceFiles (t : FileTree) (token : String) : List (Path × List UInt8) → FileTree × Option FileFault
  | [] => (t, none)
  | (p, content) :: rest =>
    match t.replaceFile token p content with
    | (t, none) => t.replaceFiles token rest
    | (t, some fault) => (t, some fault)

def read (t : FileTree) (l : Location) : Except FileFault (Option (List UInt8)) :=
  if l.names.any (·.toList.contains '\x00') then .ok none
  else if l.isTooLong then .error (.nameTooLong l.text)
  else match t.way l.start l.names with
    | .found p => .ok (t.content? p)
    | .nameTooLong => .error (.nameTooLong l.text)
    | _ => .ok none

def listing (t : FileTree) (base : Path) : List (Path × FileEntry) :=
  t.entries.filter fun (p, entry) =>
    base.isBelow p && (entry ≠ .directory || !t.entries.any fun e => p.isBelow e.1)

end FileTree

end ClientForge
