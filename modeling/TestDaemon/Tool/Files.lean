import TestDaemon.Machine.Mode
import TestDaemon.Tool.Lines
import TestDaemon.Tool.Values

/-! # Tools on files

Listing, making, copying, moving and removing files and directories, and what is kept about them.
-/

namespace TestDaemon

namespace Tool

/-- The path of a name in a directory. -/
def within (directory name : Octets) : Octets :=
  if directory.endsWith "/" then directory ++ name else directory ++ "/" ++ name

/-- The entries of the directory at a path, sorted. -/
def entriesOf (path : Octets) : Act (Except OsError (List Octets)) := do
  match ← Act.locate path true with
  | .error error => return .error error
  | .ok place =>
    match place.node? with
    | none => return .error .notFound
    | some number =>
      let disk ← Act.disk
      let node := disk.node number
      if !node.isDirectory then return .error .notDirectory
      if !node.permits 4 then return .error .accessDenied
      return .ok (Octets.sort ((disk.entries number).map (·.1)))

/-- Do something for each of some operands; the status is 1 if one of them was not well. -/
def eachOperand (operands : List Octets) (act : Octets → Act Bool) : Act Nat :=
  operands.foldlM (fun status operand => do
    let isWell ← act operand
    return if isWell then status else 1) 0

/-- Whether something was done; if not, complain. -/
def settled {α : Type} (invocation : Invocation) (text : Octets) : Except OsError α → Act Bool
  | .ok _ => return true
  | .error error => do
    Complaint.say invocation s!"{text}: {error.description}"
    return false

/-- Do something with the operands, of which there is at least one. -/
def needingOperands (invocation : Invocation) (operands : List Octets) (act : Act Nat) : Act Nat :=
  if operands.isEmpty then Complaint.misused invocation 1 "missing operand" else act

/-! ## Listing -/

namespace Listing

/-- The nine letters of a mode, behind that of the kind. -/
def modeText (node : Node) : Octets :=
  let kind : Char := match node.content with
    | .directory .. => 'd'
    | .link _ => 'l'
    | .device _ => 'c'
    | .queue _ => 'p'
    | _ => '-'
  let letters := ['r', 'w', 'x', 'r', 'w', 'x', 'r', 'w', 'x'].mapIdx fun index letter =>
    if node.mode / Nat.pow 2 (8 - index) % 2 = 1 then letter else '-'
  String.ofList (kind :: letters)

/-- What is put behind a name to show its kind. -/
def mark (given : Given) (node : Node) : Octets :=
  if node.isDirectory then (if has given 'F' || has given 'p' then "/" else "")
  else if !has given 'F' then ""
  else if node.isLink then "@"
  else if node.isFile && node.mode &&& 0o111 != 0 then "*"
  else if node.content matches .queue _ then "|"
  else ""

/-- The line of a name. -/
def line (given : Given) (name : Octets) (node : Node) : Octets :=
  let size := if node.isDirectory then 4096 else node.data.size
  let target := match node.content with
    | .link target => if has given 'l' then " -> " ++ target else ""
    | _ => ""
  let head := if has given 'l' then
      let owner := if node.owned then "1000 1000" else "root root"
      s!"{modeText node} {node.names} {owner} {size} Jan  1 00:00 "
    else ""
  head ++ name ++ mark given node ++ target

/-- Names in the order that the options ask for. -/
def arranged (given : Given) (items : List (Octets × Node)) : List (Octets × Node) :=
  let ordered :=
    if has given 't' then items.mergeSort fun a b => b.2.changed ≤ a.2.changed
    else if has given 'S' then items.mergeSort fun a b => b.2.data.size ≤ a.2.data.size
    else items
  if has given 'r' then ordered.reverse else ordered

/-- The lines of a directory, and those of the directories below it where that is asked for. -/
def directory (invocation : Invocation) (given : Given) (headed : Bool) :
    (bound : Nat) → (path : Octets) → (isFirst : Bool) → Act (Octets × Nat)
  | 0, _, _ => return ("", 0)
  | bound + 1, path, isFirst => do
    match ← entriesOf path with
    | .error error =>
      Complaint.say invocation s!"cannot open directory {quoted path}: {error.description}"
      return ("", 2)
    | .ok names =>
      let names :=
        if has given 'a' then "." :: ".." :: names
        else if has given 'A' then names
        else names.filter fun name => !name.startsWith "."
      let mut items : List (Octets × Node) := []
      for name in names do
        match ← Act.node? (within path name) false with
        | .ok node => items := items ++ [(name, node)]
        | .error _ => pure ()
      let ordered := arranged given items
      let total := if has given 'l' then "total 0\n" else ""
      let gap := if isFirst then "" else "\n"
      let heading := if headed then s!"{gap}{path}:\n" else ""
      let own := heading ++ total ++ withEnds (ordered.map fun (name, node) => line given name node)
      if !has given 'R' then return (own, 0)
      let below := ordered.filter fun (name, node) => node.isDirectory && name ≠ "." && name ≠ ".."
      let mut output := own
      let mut status := 0
      for (name, _) in below do
        let (text, code) ← directory invocation given true bound (within path name) false
        output := output ++ text
        status := max status code
      return (output, status)

end Listing

def ls : Tool := fun invocation => do
  let options : Options :=
    { flags := "1aACdFhilnpqrRsStuUxXgGoQ", status := 2,
      long := [("all", 'a'), ("almost-all", 'A'), ("directory", 'd'), ("recursive", 'R'), ("reverse", 'r'),
        ("classify", 'F')] }
  let given ← options.take invocation
  let operands := if given.2.isEmpty then ["."] else Octets.sort given.2
  let mut files : List (Octets × Node) := []
  let mut directories : List Octets := []
  let mut status := 0
  for path in operands do
    match ← Act.node? path (!has given 'l' && !has given 'd') with
    | .ok node =>
      if node.isDirectory && !has given 'd' then directories := directories ++ [path]
      else files := files ++ [(path, node)]
    | .error error =>
      match ← Act.node? path false with
      | .ok node => files := files ++ [(path, node)]
      | .error _ =>
        Complaint.say invocation s!"cannot access {quoted path}: {error.description}"
        status := 2
  let mut output := withEnds ((Listing.arranged given files).map fun (name, node) =>
    Listing.line given name node)
  let headed := 1 < given.2.length || has given 'R'
  let mut isFirst := files.isEmpty
  for path in if has given 'r' then directories.reverse else directories do
    let (text, code) ← Listing.directory invocation given headed 200 path isFirst
    output := output ++ text
    status := max status code
    isFirst := false
  finish invocation output status

/-! ## Directories -/

/-- Make a directory. -/
def makeDirectory (path : Octets) (mode : Nat) : Act (Except OsError Nat) := do
  match ← Act.locate path false with
  | .error error => return .error error
  | .ok place => Act.onDisk fun disk time => disk.addDirectory place time mode

/-- The paths of the directories on the way to one, and of itself. -/
def waysTo (path : Octets) : List Octets :=
  let start := if path.startsWith "/" then "/" else ""
  let names := Disk.segments path
  (List.range names.length).map fun count => start ++ "/".intercalate (names.take (count + 1))

/-- Make a directory with those on the way to it. -/
def makeWay (path : Octets) (mode : Nat) : List Octets → Act (Except (Octets × OsError) Unit)
  | [] => return .ok ()
  | step :: rest => do
    match ← Act.node? step true with
    | .ok node => if node.isDirectory then makeWay path mode rest else return .error (step, .alreadyExists)
    | .error .notFound =>
      match ← makeDirectory step mode with
      | .ok _ => makeWay path mode rest
      | .error error => return .error (step, error)
    | .error error => return .error (step, error)

/-- The mode that an option describes. -/
def modeGiven (invocation : Invocation) (given : Given) (start : Nat) : Act (Option Nat) := do
  match value? given 'm' with
  | none => return none
  | some text =>
    match Mode.changed? true 0 start text with
    | some mode => return some mode
    | none => Complaint.fatal invocation 1 s!"invalid mode {cited text}"

def mkdir : Tool := fun invocation => do
  let options : Options :=
    { flags := "pvZ", valued := "m", long := [("parents", 'p'), ("mode", 'm'), ("verbose", 'v')] }
  let given ← options.take invocation
  let masked := 0o777 &&& (0o777 ^^^ (← get).process.mask)
  let mode := (← modeGiven invocation given 0o777).getD masked
  needingOperands invocation given.2 <| eachOperand given.2 fun path => do
    if has given 'p' then
      match ← makeWay path mode (waysTo path) with
      | .ok () => return true
      | .error (step, error) =>
        settled invocation s!"cannot create directory {quoted step}" (Except.error error : Except OsError Unit)
    else
      let result ← makeDirectory path mode
      if has given 'v' && result matches .ok _ then
        let _ ← print s!"{invocation.name}: created directory {quoted path}\n"
      settled invocation s!"cannot create directory {quoted path}" result

/-- Change the disk at the place of a path. A link there is not followed. -/
def changeAt (path : Octets) (change : Disk → Disk.Place → Nat → Except OsError Disk) :
    Act (Except OsError Unit) := do
  match ← Act.locate path false with
  | .error error => return .error error
  | .ok place => Act.onDisk fun disk time => (change disk place time).map ((), ·)

def removeDirectory (path : Octets) : Act (Except OsError Unit) := changeAt path Disk.removeDirectory

def removeFile (path : Octets) : Act (Except OsError Unit) := changeAt path Disk.removeFile

def rmdir : Tool := fun invocation => do
  let options : Options := { flags := "pv", long := [("parents", 'p'), ("verbose", 'v')] }
  let given ← options.take invocation
  needingOperands invocation given.2 <| eachOperand given.2 fun path => do
    let paths := if has given 'p' then (waysTo path).reverse else [path]
    paths.foldlM (fun isWell path => do
      if !isWell then return false
      settled invocation s!"failed to remove {quoted path}" (← removeDirectory path)) true

/-! ## Removing -/

/-- Remove what is at a path, with all that is below it. -/
def removeAll (invocation : Invocation) : (bound : Nat) → Octets → Act Bool
  | 0, _ => return false
  | bound + 1, path => do
    let cannot := s!"cannot remove {quoted path}"
    match ← Act.node? path false with
    | .error error => settled invocation cannot (.error error : Except OsError Unit)
    | .ok node =>
      if !node.isDirectory then settled invocation cannot (← removeFile path)
      else match ← entriesOf path with
        | .error error => settled invocation cannot (.error error : Except OsError Unit)
        | .ok names =>
          let isWell ← names.foldlM (fun isWell name => do
            let own ← removeAll invocation bound (within path name)
            return isWell && own) true
          if isWell then settled invocation cannot (← removeDirectory path) else return false

def rm : Tool := fun invocation => do
  let options : Options :=
    { flags := "dfiIrRv", long := [("force", 'f'), ("recursive", 'r'), ("dir", 'd'), ("verbose", 'v')] }
  let given ← options.take invocation
  let isForced := has given 'f'
  if given.2.isEmpty && isForced then return 0
  needingOperands invocation given.2 <| eachOperand given.2 fun path => do
    let isRecursive := has given 'r' || has given 'R'
    let cannot := s!"cannot remove {quoted path}"
    let name := lastName path
    if isRecursive && (name = "." || name = "..") then
      Complaint.say invocation s!"refusing to remove '.' or '..' directory: skipping {quoted path}"
      return false
    match ← Act.node? path false with
    | .error .notFound | .error .notDirectory =>
      if isForced then return true
      settled invocation cannot (Except.error OsError.notFound : Except OsError Unit)
    | .error error => settled invocation cannot (.error error : Except OsError Unit)
    | .ok node =>
      if !node.isDirectory then settled invocation cannot (← removeFile path)
      else if isRecursive then removeAll invocation 200 path
      else if has given 'd' then settled invocation cannot (← removeDirectory path)
      else settled invocation cannot (Except.error OsError.isDirectory : Except OsError Unit)

def unlink : Tool := fun invocation => do
  match invocation.arguments with
  | [] => Complaint.misused invocation 1 "missing operand"
  | [path] =>
    let isWell ← settled invocation s!"cannot unlink {quoted path}" (← removeFile path)
    return if isWell then 0 else 1
  | _ :: extra :: _ => Complaint.misused invocation 1 s!"extra operand {cited extra}"

/-! ## Copying and moving -/

/-- Copy a file, and give a new one the mode of the old one. -/
def copyFile (invocation : Invocation) (source target : Octets) : Act Bool := do
  match ← Act.locate source true, ← Act.locate target true with
  | .ok ⟨_, _, some a⟩, .ok ⟨_, _, some b⟩ =>
    if a = b then
      Complaint.say invocation s!"{quoted source} and {quoted target} are the same file"
      return false
  | _, _ => pure ()
  match ← readFile (if source = "-" then "./-" else source) with
  | .error error =>
    settled invocation s!"cannot open {quoted source} for reading" (.error error : Except OsError Unit)
  | .ok data =>
    let isNew := (← Act.node? target true) matches .error _
    match ← writeFile target false data with
    | .error error =>
      settled invocation s!"cannot create regular file {quoted target}" (.error error : Except OsError Unit)
    | .ok () =>
      if isNew then
        match ← Act.locate target true, ← Act.node? source true with
        | .ok ⟨_, _, some number⟩, .ok node =>
          let mode := node.mode &&& 0o777 &&& (0o777 ^^^ (← get).process.mask)
          modify fun world =>
            { world with disk := world.disk.update number fun node => { node with mode } }
        | _, _ => pure ()
      return true

/-- Copy what is at a path, with all that is below it. -/
def copyAll (invocation : Invocation) : (bound : Nat) → (source target : Octets) → Act Bool
  | 0, _, _ => return false
  | bound + 1, source, target => do
    match ← Act.node? source false with
    | .error error => settled invocation s!"cannot stat {quoted source}" (.error error : Except OsError Unit)
    | .ok node =>
      match node.content with
      | .link text =>
        match ← Act.locate target false with
        | .error error =>
          settled invocation s!"cannot create symbolic link {quoted target}" (.error error : Except OsError Unit)
        | .ok place =>
          let added ← Act.onDisk fun disk time => disk.add place time ⟨.link text, 0o777, true, time, 1⟩
          settled invocation s!"cannot create symbolic link {quoted target}" added
      | .directory .. =>
        if !((← Act.node? target true) matches .ok _) then
          let _ ← makeDirectory target (node.mode &&& 0o777 ||| 0o700)
        match ← entriesOf source with
        | .error error =>
          settled invocation s!"cannot access {quoted source}" (.error error : Except OsError Unit)
        | .ok names =>
          names.foldlM (fun isWell name => do
            let own ← copyAll invocation bound (within source name) (within target name)
            return isWell && own) true
      | _ => copyFile invocation source target

/-- The sources of an operation with their targets: a target that is a directory takes all sources. -/
def pairs (invocation : Invocation) (given : Given) : Act (List (Octets × Octets)) := do
  let (sources, target) ← match value? given 't', given.2 with
    | some directory, sources => pure (sources, directory)
    | none, [] => Complaint.misused invocation 1 "missing file operand"
    | none, [one] => Complaint.misused invocation 1 s!"missing destination file operand after {cited one}"
    | none, operands => pure (operands.dropLast, operands.getLast?.getD "")
  let isDirectory := match ← Act.node? target true with
    | .ok node => node.isDirectory
    | .error _ => false
  if isDirectory && !has given 'T' then
    return sources.map fun source => (source, within target (lastName source))
  if 1 < sources.length then Complaint.fatal invocation 1 s!"target {quoted target} is not a directory"
  return sources.map (·, target)

def cp : Tool := fun invocation => do
  let options : Options :=
    { flags := "abdfilLHnpPrRsTuvx", valued := "St", long := [("recursive", 'r'), ("force", 'f'),
        ("archive", 'a'), ("target-directory", 't'), ("no-target-directory", 'T'), ("no-clobber", 'n')] }
  let given ← options.take invocation
  let isRecursive := has given 'r' || has given 'R' || has given 'a'
  let mut status := 0
  for (source, target) in ← pairs invocation given do
    let isWell ← do
      match ← Act.node? source true with
      | .error error => settled invocation s!"cannot stat {quoted source}" (.error error : Except OsError Unit)
      | .ok node =>
        if node.isDirectory then
          if isRecursive then copyAll invocation 200 source target
          else
            Complaint.say invocation s!"-r not specified; omitting directory {quoted source}"
            pure false
        else if has given 'n' && (← Act.node? target false) matches .ok _ then pure true
        else copyFile invocation source target
    if !isWell then status := 1
  return status

def mv : Tool := fun invocation => do
  let options : Options :=
    { flags := "bfinuvTZ", valued := "St", long := [("force", 'f'), ("no-clobber", 'n'),
        ("target-directory", 't'), ("no-target-directory", 'T'), ("verbose", 'v')] }
  let given ← options.take invocation
  let mut status := 0
  for (source, target) in ← pairs invocation given do
    let isWell ← do
      match ← Act.locate source false, ← Act.locate target false with
      | .error error, _ => settled invocation s!"cannot stat {quoted source}" (.error error : Except OsError Unit)
      | .ok ⟨_, _, none⟩, _ =>
        settled invocation s!"cannot stat {quoted source}" (.error .notFound : Except OsError Unit)
      | _, .error error =>
        settled invocation s!"cannot move {quoted source} to {quoted target}" (.error error : Except OsError Unit)
      | .ok a, .ok b =>
        if a.node? = b.node? then
          Complaint.say invocation s!"{quoted source} and {quoted target} are the same file"
          pure false
        else if has given 'n' && b.node?.isSome then pure true
        else
          let moved ← Act.onDisk fun disk time => (disk.rename a b time).map ((), ·)
          match moved with
          | .error .invalidArgument =>
            Complaint.say invocation
              s!"cannot move {quoted source} to a subdirectory of itself, {quoted target}"
            pure false
          | moved => settled invocation s!"cannot move {quoted source} to {quoted target}" moved
    if !isWell then status := 1
  return status

/-- Make a link at a path: one that leads to a text, or one more name of a file. -/
def makeLink (invocation : Invocation) (given : Given) (source target : Octets) : Act Bool := do
  let isSymbolic := has given 's'
  if has given 'f' && (← Act.node? target false) matches .ok _ then
    let _ ← removeFile target
  let kind := if isSymbolic then "symbolic" else "hard"
  match ← Act.locate target false with
  | .error error => settled invocation s!"failed to create {kind} link {quoted target}" (.error error : Except OsError Unit)
  | .ok place =>
    if isSymbolic then
      let added ← Act.onDisk fun disk time =>
        if place.node?.isSome then .error .alreadyExists
        else disk.add place time ⟨.link source, 0o777, true, time, 1⟩
      settled invocation s!"failed to create symbolic link {quoted target}" added
    else match ← Act.locate source false with
      | .ok ⟨_, _, some number⟩ =>
        if ((← Act.disk).node number).isDirectory then
          Complaint.say invocation s!"{quoted source}: hard link not allowed for directory"
          return false
        let added ← Act.onDisk fun disk time => (disk.addName number place time).map ((), ·)
        settled invocation s!"failed to create hard link {quoted target}" added
      | .ok _ => settled invocation s!"failed to access {quoted source}" (.error .notFound : Except OsError Unit)
      | .error error =>
        settled invocation s!"failed to access {quoted source}" (.error error : Except OsError Unit)

def ln : Tool := fun invocation => do
  let options : Options :=
    { flags := "bdfFiLnPrsTv", valued := "St", long := [("symbolic", 's'), ("force", 'f'),
        ("no-dereference", 'n'), ("no-target-directory", 'T'), ("target-directory", 't')] }
  let given ← options.take invocation
  let given := match given.2 with
    | [one] => if (value? given 't').isSome then given else (given.1, [one, "."])
    | _ => given
  let mut status := 0
  for (source, target) in ← pairs invocation given do
    if !(← makeLink invocation given source target) then status := 1
  return status

/-! ## What is kept about files -/

def touch : Tool := fun invocation => do
  let options : Options :=
    { flags := "acfhm", valued := "drt", long := [("no-create", 'c'), ("date", 'd'), ("reference", 'r')] }
  let given ← options.take invocation
  if given.2.isEmpty then Complaint.misused invocation 1 "missing file operand"
  eachOperand given.2 fun path => do
    match ← Act.locate path true with
    | .ok ⟨_, _, some number⟩ =>
      modify fun world =>
        { world with disk := world.disk.update number fun node => { node with changed := world.clock } }
      return true
    | .ok ⟨_, _, none⟩ =>
      if has given 'c' then return true
      let opened ← Act.openPath { writes := true, creates := true } path
      let error := if Disk.marksDirectory path then OsError.notFound else .accessDenied
      match opened with
      | .ok _ => return true
      | .error cause =>
        settled invocation s!"cannot touch {quoted path}"
          (.error (if cause = .isDirectory then error else cause) : Except OsError Unit)
    | .error error =>
      settled invocation s!"cannot touch {quoted path}" (.error error : Except OsError Unit)

/-- Change the modes at a path, and of all that is below it where that is asked for. -/
def changeModes (invocation : Invocation) (given : Given) (text : Octets) : (bound : Nat) → Octets → Act Bool
  | 0, _ => return false
  | bound + 1, path => do
    match ← Act.locate path true with
    | .error error => settled invocation s!"cannot access {quoted path}" (.error error : Except OsError Unit)
    | .ok ⟨_, _, none⟩ =>
      settled invocation s!"cannot access {quoted path}" (.error .notFound : Except OsError Unit)
    | .ok ⟨_, _, some number⟩ =>
      let node := (← Act.disk).node number
      let mode := (Mode.changed? node.isDirectory (← get).process.mask node.mode text).getD node.mode
      let changed ← Act.onDisk fun disk _ => (disk.changeMode number mode).map ((), ·)
      let isWell ← settled invocation s!"changing permissions of {quoted path}" changed
      if !(has given 'R' && node.isDirectory) then return isWell
      match ← entriesOf path with
      | .error error =>
        settled invocation s!"cannot read directory {quoted path}" (.error error : Except OsError Unit)
      | .ok names =>
        names.foldlM (fun isWell name => do
          let own ← changeModes invocation given text bound (within path name)
          return isWell && own) isWell

def chmod : Tool := fun invocation => do
  -- A mode such as `-x` looks like an option.
  let isMode (text : Octets) : Bool :=
    match text.toList with
    | '-' :: c :: rest => (c :: rest).all fun c => "rwxXstugoa,=+-0123456789".contains c
    | _ => false
  let (modes, others) := invocation.arguments.partition isMode
  let options : Options := { flags := "Rvcf", long := [("recursive", 'R'), ("verbose", 'v')] }
  let given ← options.take { invocation with arguments := others }
  let operands := if modes.isEmpty then given.2 else ",".intercalate modes :: given.2
  match operands with
  | [] => Complaint.misused invocation 1 "missing operand"
  | [text] => Complaint.misused invocation 1 s!"missing operand after {cited text}"
  | text :: paths =>
    if (Mode.changed? false 0 0 text).isNone then
      Complaint.misused invocation 1 s!"invalid mode: {cited text}"
    eachOperand paths (changeModes invocation given text 200)

def truncate : Tool := fun invocation => do
  let options : Options :=
    { flags := "co", valued := "sr", long := [("size", 's'), ("no-create", 'c'), ("reference", 'r')] }
  let given ← options.take invocation
  match value? given 's' with
  | none => Complaint.misused invocation 1 "you must specify either '--size' or '--reference'"
  | some text =>
    let (sign, digits) := match text.toList with
      | c :: rest => if "+-".contains c then (c, String.ofList rest) else (' ', text)
      | [] => (' ', text)
    match size? digits with
    | none => Complaint.fatal invocation 1 s!"Invalid number: {cited text}"
    | some size =>
      if given.2.isEmpty then Complaint.misused invocation 1 "missing file operand"
      eachOperand given.2 fun path => do
        let opened ← Act.openPath { writes := true, creates := !has given 'c' } path
        match opened, ← Act.locate path true with
        | .ok _, .ok ⟨_, _, some number⟩ =>
          modify fun world =>
            let old := (world.disk.node number).data.size
            let new := if sign = '+' then old + size else if sign = '-' then old - size else size
            { world with disk := world.disk.resize number world.clock new }
          return true
        | .error error, _ =>
          settled invocation s!"cannot open {quoted path} for writing" (.error error : Except OsError Unit)
        | _, _ => return true

/-! ## Paths -/

/-- The path of a directory without links. -/
def physicalPath (number : Nat) : Act Octets := do
  let disk ← Act.disk
  return disk.pathOf (disk.nodes.size + 1) number

def pwd : Tool := fun invocation => do
  let options : Options := { flags := "LP", long := [("logical", 'L'), ("physical", 'P')] }
  let _ ← options.take invocation
  finish invocation ((← physicalPath (← Act.working)) ++ "\n") 0

/-- The path without links that a path leads to. Only the last name may be missing where `mayMiss` holds. -/
def resolved (mayMiss : Bool) (path : Octets) : Act (Except OsError Octets) := do
  match ← Act.locate path true with
  | .error error => return .error error
  | .ok place =>
    if place.node?.isNone && !mayMiss then return .error .notFound
    let directory ← physicalPath place.directory
    return .ok (if place.name = "." then directory else within directory place.name)

def realpath : Tool := fun invocation => do
  let options : Options :=
    { flags := "emLPqsz", long := [("canonicalize-existing", 'e'), ("quiet", 'q'), ("strip", 's')] }
  let given ← options.take invocation
  needingOperands invocation given.2 <| eachOperand given.2 fun path => do
    match ← resolved (!has given 'e') path with
    | .ok path =>
      let _ ← print (path ++ "\n")
      return true
    | .error error => settled invocation (quotedIfNeeded path) (.error error : Except OsError Unit)

def readlink : Tool := fun invocation => do
  let options : Options :=
    { flags := "efmnqsvz", long := [("canonicalize", 'f'), ("no-newline", 'n')] }
  let given ← options.take invocation
  let ending := if has given 'n' then "" else "\n"
  needingOperands invocation given.2 <| eachOperand given.2 fun path => do
    if has given 'f' || has given 'e' || has given 'm' then
      match ← resolved (!has given 'e') path with
      | .ok path =>
        let _ ← print (path ++ ending)
        return true
      | .error _ => return false
    else match ← Act.node? path false with
      | .ok ⟨.link target, _, _, _, _⟩ =>
        let _ ← print (target ++ ending)
        return true
      | _ => return false

def mktemp : Tool := fun invocation => do
  let options : Options :=
    { flags := "dqut", valued := "p", long := [("directory", 'd'), ("dry-run", 'u'), ("quiet", 'q')] }
  let given ← options.take invocation
  let template := given.2.headD "tmp.XXXXXXXXXX"
  let mark := (template.toList.reverse.takeWhile (· == 'X')).length
  if mark < 3 then Complaint.fatal invocation 1 s!"too few X's in template {cited template}"
  let letters := "a0b1c2d3e4f5g6h7i8j9".toList
  let number := (← Act.disk).nodes.size
  let tail := (List.range mark).map fun index => letters[(number + 7 * index) % 20]?.getD 'a'
  let name := String.ofList (template.toList.take (template.length - mark) ++ tail)
  let path := match value? given 'p' with
    | some directory => within directory name
    | none => if given.2.isEmpty || has given 't' then within "/tmp" name else name
  let made ← do
    if has given 'd' then
      let made ← makeDirectory path 0o700
      pure (made.map fun _ => ())
    else
      let made ← Act.openPath { writes := true, creates := true } path
      pure (made.map fun _ => ())
  let what := if has given 'd' then "directory" else "file"
  if ← settled invocation s!"failed to create {what} via template {cited template}" made then
    finish invocation (path ++ "\n") 0
  else return 1

/-! ## Comparing and finding -/

/-- Compare two files octet by octet. -/
def cmp : Tool := fun invocation => do
  let options : Options :=
    { flags := "bls", valued := "n", status := 2, long := [("silent", 's'), ("quiet", 's')] }
  let given ← options.take invocation
  match given.2 with
  | [] => Complaint.misused invocation 2 s!"missing operand after {cited invocation.name}"
  | first :: rest =>
    let second := rest.headD "-"
    match ← readFile first, ← readFile second with
    | .error error, _ => Complaint.fatal invocation 2 s!"{first}: {error.description}"
    | _, .error error => Complaint.fatal invocation 2 s!"{second}: {error.description}"
    | .ok a, .ok b =>
      let pairs := a.toList.zip b.toList
      match pairs.findIdx? fun (x, y) => x ≠ y with
      | some index =>
        if has given 's' then return 1
        let line := ((a.toList.take index).countP (· = 0x0A)) + 1
        finish invocation s!"{first} {second} differ: byte {index + 1}, line {line}\n" 1
      | none =>
        if a.size = b.size then return 0
        if !has given 's' then
          let (short, data) := if a.size < b.size then (first, a) else (second, b)
          if data.isEmpty then Complaint.say invocation s!"EOF on {quotedIfNeeded short} which is empty"
          else
            let lines := data.toList.countP (· = 0x0A)
            let where? := if data.toList.getLast? = some 0x0A then s!"line {lines}" else s!"in line {lines + 1}"
            Complaint.say invocation s!"EOF on {quotedIfNeeded short} after byte {data.size}, {where?}"
        return 1

end Tool

end TestDaemon
