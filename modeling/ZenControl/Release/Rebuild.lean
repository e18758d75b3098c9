import ZenControl.Lines
import ZenControl.Value

/-! The plan of a release's rebuild: the paths that differ between the base and the released
tree, and the services whose containers they make the workflow recreate. -/
namespace ZenControl.Rebuild

/-- `SERVICE_PATH_RULES`. -/
def servicePathRules : List (String × List String) :=
  [("mikrotik-control",["app/","Dockerfile","requirements.txt"]),
   ("traffic-ingest",["telemetry/ingest/"]),
   ("goflow2",["telemetry/goflow2/"]),
   ("zen-local-https",["deploy/caddy/"])]

def composePath : String := "docker-compose.yml"

/-- `pattern.endswith("/")`. -/
def isDirectory (pattern : String) : Bool := pattern.toList.getLast?=some '/'

/-- `service_path_matches`. -/
def servicePathMatches (path pattern : String) : Bool :=
  let path := String.ofList (path.toList.dropWhile fun c => c= '.' || c= '/')
  if isDirectory pattern then startsWith path pattern else path=pattern

section Compose

abbrev Line := List Char

def opensServices (line : Line) : Bool := rstrip line="services:".toList

/-- `line and not line.startswith((" ", "\t", "\r", "\n"))`. -/
def endsServices : Line → Bool
  | [] => false
  | c::_ => !(c= ' ' || c= '\t' || c= '\r' || c= '\n')

def isNameChar (c : Char) : Bool := c.isAlphanum || c= '_' || c= '.' || c= '-'

/-- The pattern `^  ([A-Za-z0-9_.-]+):\s*(?:#.*)?$` on a line without its line feed. -/
def serviceHeader (line : Line) : Option String :=
  match (line.reverse.dropWhile (· = '\n')).reverse with
  | ' ' :: ' ' :: text =>
    let name := text.takeWhile isNameChar
    match text.dropWhile isNameChar with
    | ':' :: tail =>
      let comment := tail.dropWhile isSpace
      if name≠[] ∧ (comment=[] ∨ comment.head?=some '#') then some (String.ofList name) else none
    | _ => none
  | _ => none

/-- The variables of the loop of `_compose_blocks`. -/
structure Splitting where
  blocks : List (String × List Line) := []
  suffix : List Line := []
  current : Option String := none
  serviceSection : Bool := true

/-- One turn of the loop of `_compose_blocks`. -/
def Splitting.turn (s : Splitting) (line : Line) : Splitting :=
  let s := if s.serviceSection && endsServices line then
    { s with serviceSection := false, current := none } else s
  if s.serviceSection then
    match serviceHeader line with
    | some name => { s with current := some name, blocks := dictSet s.blocks name [line] }
    | none =>
      match s.current with
      | some name =>
        let rows := (s.blocks.lookup name).getD []
        { s with blocks := dictSet s.blocks name (rows ++ [line]) }
      | none => s
  else { s with suffix := s.suffix ++ [line] }

/-- `_compose_blocks`. -/
def composeBlocks (text : String) : List (String × List Char) × List Char :=
  let lines := keepLines text.toList
  match lines.dropWhile (!opensServices ·) with
  | [] => ([],text.toList)
  | services::rest =>
    let split := rest.foldl Splitting.turn {}
    (split.blocks.map fun block => (block.1,block.2.flatten),
      (lines.takeWhile (!opensServices ·) ++ [services] ++ split.suffix).flatten)

/-- `changed_compose_services`. -/
def changedComposeServices (before : Option String) (after : String) : List String :=
  let afterNames := (composeBlocks after).1.map Prod.fst
  match before with
  | none => afterNames
  | some before =>
    let changed := ((composeBlocks before).1.map Prod.fst ++ afterNames).filter fun name =>
      (composeBlocks before).1.lookup name≠(composeBlocks after).1.lookup name
    if (composeBlocks before).2≠(composeBlocks after).2 then changed ++ afterNames else changed

end Compose

inductive PlanError
  | workflow (message : String)
  | fileNotFound
  deriving DecidableEq, Repr

def postgresPath : String := "telemetry/postgres/"

def migrationNeeded : PlanError :=
  .workflow ("telemetry/postgres changed; existing PostgreSQL volumes require an explicit " ++
    "migration plan rather than an automatic container recreate")

/-- `affected_services`, given the compose file at the baseline and in the working tree. -/
def affectedServices (changedPaths : List String) (before after : Option String) :
    Except PlanError (List String) := do
  let paths := sortedSet ((changedPaths.map strip).filter (· ≠ ""))
  let affected := (servicePathRules.filter fun rule =>
    paths.any fun path => rule.2.any (servicePathMatches path)).map Prod.fst
  let recreated ← if composePath ∈ paths then match after with
      | some after => .ok (changedComposeServices before after)
      | none => .error .fileNotFound
    else .ok []
  if paths.any (startsWith · postgresPath) then .error migrationNeeded
  else .ok (sortedSet (affected ++ recreated))

/-- One change of a tracked file between two trees. -/
inductive Change
  | added (path : String)
  | modified (path : String)
  | deleted (path : String)
  | renamed (old new : String)
  deriving DecidableEq, Repr

namespace Change

/-- The letter by which `--diff-filter` selects a change. -/
def status : Change → Char
  | added _ => 'A'
  | modified _ => 'M'
  | deleted _ => 'D'
  | renamed .. => 'R'

/-- The path that `--name-only` shows. -/
def name : Change → String
  | added path => path
  | modified path => path
  | deleted path => path
  | renamed _ new => new

/-- The old and the new path. -/
def paths : Change → List String
  | added path => [path]
  | modified path => [path]
  | deleted path => [path]
  | renamed old new => [old,new]

end Change

/-- The paths that `git` prints as they are. -/
def usual (path : String) : Bool :=
  path.toList.all fun c => 0x20 ≤ c.toNat && c.toNat < 0x7F && c≠ '"' && c≠ '\\'

/-- How `git` prints the other paths: quoted, and on one line. -/
structure Git where
  quoted : String → String
  quoted_opens : ∀ path,(quoted path).toList.head?=some '"'
  quoted_line : ∀ path,∀ c ∈ (quoted path).toList, isLineBreak c=false

namespace Git
variable (git : Git)

def shown (path : String) : String := if usual path then path else git.quoted path

/-- One path on every line. -/
def listing (paths : List String) : List Char :=
  (paths.map fun path => (git.shown path).toList).flatMap fun line => line ++ ['\n']

/-- `git diff --name-only --diff-filter=…`. -/
def diffNames (letters : String) (changes : List Change) : List Char :=
  git.listing ((changes.filter fun change => change.status ∈ letters.toList).map Change.name)

end Git

/-- What differs between the base and the tree being released: the changes of tracked files, the
files not tracked yet, and the two texts of the compose file. -/
structure Delta where
  changes : List Change
  untracked : List String
  includeWorktree : Bool
  before : Option String
  after : Option String

def Delta.newFiles (d : Delta) : List String := if d.includeWorktree then d.untracked else []

section Functions
variable (git : Git) (d : Delta)

/-- `{line.strip() for line in text.splitlines() if line.strip()}`. -/
def listedPaths (text : List Char) : List String :=
  ((splitLines text).map fun line => strip (String.ofList line)).filter (· ≠ "")

/-- `changed_paths_since`. -/
def changedPathsSince : List String :=
  sortedSet (listedPaths (git.diffNames "ACMRTUXB" d.changes) ++
    listedPaths (git.listing d.newFiles))

/-- The services that `main` adds to the rebuild. -/
def autoServices : Except PlanError (List String) :=
  let releasePaths := changedPathsSince git d
  if releasePaths≠[] then affectedServices releasePaths d.before d.after else .ok []

end Functions

end ZenControl.Rebuild
