import Hotkeys.Tools.Copying

/-!
# Files and directories

The tools that list, make, copy, move and remove files and directories, and that change what may be
done with them.
-/

set_option autoImplicit false

namespace Hotkeys.Tools

open Hotkeys.Host (Bytes Files Node Place SystemError)
open Hotkeys.Host.Path (dropSlashes endsInSlash)

/-! ## Names -/

/-- The last name of a path. -/
def lastName (path : Text) : Text :=
  let trimmed := dropSlashes path
  if trimmed = ['/'] then trimmed
  else (trimmed.reverse.takeWhile (· != '/')).reverse

/-- A path without its last name. -/
def withoutLast (path : Text) : Text :=
  let trimmed := dropSlashes path
  if !trimmed.contains '/' then ['.']
  else
    let lead := (trimmed.reverse.dropWhile (· != '/')).reverse
    if lead.isEmpty then ['/'] else dropSlashes lead

/-- The path of a name in a directory. -/
def inside (directory name : Text) : Text :=
  if endsInSlash directory then directory ++ name else directory ++ '/' :: name

/-! ## Listing -/

/-- A name as it is listed, with a sign of its kind if that is wanted. -/
def listedName (a : Arguments) (files : Files) (path name : Text) : Text :=
  match files.lookAt path with
  | .ok (_, .directory) => if a.hasOne "Fp" then name ++ ['/'] else name
  | .ok (_, .file _ true) | .ok (_, .tool _) => if a.has 'F' then name ++ ['*'] else name
  | .ok (_, .link _) => if a.has 'F' then name ++ ['@'] else name
  | _ => name

/-- The names in a directory that are listed. -/
def listedNames (a : Arguments) (files : Files) (place : Place) : List Text :=
  let names := files.namesIn place
  let names := if a.hasOne "aA" then names else names.filter fun n => !Text.beginsWith n ['.']
  let names := if a.has 'a' then ['.'] :: ['.', '.'] :: names else names
  let sorted := Text.Utf8.ordered names
  if a.has 'r' then sorted.reverse else sorted

/-- Lists directories; `depth` bounds how deep their own directories are listed. -/
def listDirectories (a : Arguments) (headed : Bool) : (depth : Nat) → List Text → Work → Work
  | 0, _, w => w
  | depth + 1, paths, w =>
    (paths.foldl (fun (s : Work × Bool) path =>
      let (w, first) := s
      match w.files.lookUp path with
      | .ok (place, _) =>
        let names := listedNames a w.files place
        let heading := if headed then (if first then [] else ['\n']) ++ path ++ ":\n".toList else []
        let rows := names.flatMap fun n => listedName a w.files (inside path n) n ++ ['\n']
        let total := if a.has 'l' then "total 0\n".toList else []
        let w := w.print (heading ++ total ++ rows)
        if a.has 'R' then
          let below := (names.filter fun n => n != ['.'] && n != ['.', '.']).map (inside path)
          let below := below.filter fun p =>
            match w.files.lookAt p with
            | .ok (_, node) => node == .directory
            | .error _ => false
          (below.foldl (fun w p => listDirectories a true depth [p] (w.print ['\n'])) w, false)
        else (w, false)
      | .error _ => (w, first)) (w, true)).1

/-- How deep directories may stand inside of directories. -/
def treeDepth : Nat := 256

/-- Lists files, and what is in directories. -/
def ls : Body :=
  withOptions
    { letters := "aAbBcCdDfFgGhHiI:klLmnNopqQrRsStT:uUvw:xX1Z"
      words := [("all", 'a'), ("almost-all", 'A'), ("directory", 'd'), ("recursive", 'R'),
        ("reverse", 'r'), ("classify", 'F')]
      stopping := false } 2 fun a w =>
    let operands := if a.operands.isEmpty then [['.']] else a.operands
    let (found, w) := operands.foldl (fun (s : List (Text × Bool) × Work) path =>
      match s.2.files.lookUp path <|> s.2.files.lookAt path with
      | .ok (_, node) => (s.1 ++ [(path, node == .directory && !a.has 'd')], s.2)
      | .error e => (s.1, s.2.refuse 2 ("cannot access ".toList ++ quoted path) e)) ([], w)
    let order (paths : List Text) : List Text :=
      let sorted := Text.Utf8.ordered paths
      if a.has 'r' then sorted.reverse else sorted
    let plain := order ((found.filter fun f => !f.2).map Prod.fst)
    let directories := order ((found.filter Prod.snd).map Prod.fst)
    let w := w.print (plain.flatMap fun p => listedName a w.files p p ++ ['\n'])
    let w := if plain.isEmpty || directories.isEmpty then w else w.print ['\n']
    listDirectories a (1 < operands.length || a.has 'R') treeDepth directories w

/-! ## Making and removing -/

/-- Makes directories. -/
def mkdir : Body :=
  withOptions
    { letters := "m:pvZ", words := [("mode", 'm'), ("parents", 'p'), ("verbose", 'v')]
      stopping := false } 1 fun a w =>
    if a.operands.isEmpty then w.lackOperand 1
    else
      a.operands.foldl (fun w path =>
        let about (path : Text) : Text := "cannot create directory ".toList ++ quoted path
        if a.has 'p' then
          match w.files.createDirectories path with
          | (.ok (), files) => { w with files }
          | (.error e, files) =>
            let blocking := (ancestors path).find? fun p =>
              w.files.contains p && !w.files.isDirectory p
            let e := if blocking.isSome && blocking != some path then .notDirectory else e
            { w with files }.refuse 1 (about (blocking.getD path)) e
        else
          match w.files.createDirectory path with
          | .ok files => { w with files }
          | .error e => w.refuse 1 (about path) e) w
where
  /-- The paths that lead to a path, the shortest first, and the path itself. -/
  ancestors (path : Text) : List Text :=
    ((List.range (path.length + 1)).filter fun n => n != 0 && (path[n]?).all (· == '/')).map
      path.take

/-- Removes empty directories. -/
def rmdir : Body :=
  withOptions
    { letters := "pv"
      words := [("parents", 'p'), ("verbose", 'v'), ("ignore-fail-on-non-empty", 'v')]
      stopping := false } 1 fun a w =>
    if a.operands.isEmpty then w.lackOperand 1
    else
      a.operands.foldl (fun w path =>
        let paths :=
          if a.has 'p' then
            (List.range (path.filter (· == '/')).length).foldl
              (fun (ps : List Text) _ => ps ++ [withoutLast (ps.getLastD path)]) [path]
          else [path]
        (paths.foldl (fun (s : Work × Bool) path =>
          let (w, going) := s
          if !going then s
          else
            match w.files.removeDirectory path with
            | .ok files => ({ w with files }, true)
            | .error e => (w.refuse 1 ("failed to remove ".toList ++ quoted path) e, false))
          (w, true)).1) w

/-- Removes files. -/
def rm : Body :=
  withOptions
    { letters := "dfiIrRv"
      words := [("force", 'f'), ("recursive", 'r'), ("dir", 'd'), ("verbose", 'v'),
        ("one-file-system", 'v'), ("no-preserve-root", '!'), ("preserve-root", 'v')]
      stopping := false } 1 fun a w =>
    if a.operands.isEmpty then if a.has 'f' then w else w.lackOperand 1
    else
      a.operands.foldl (fun w path =>
        let recursive := a.hasOne "rR"
        let name := lastName path
        let about := "cannot remove ".toList ++ quoted path
        if recursive && (name = ['.'] || name = ['.', '.']) then
          w.complain 1 ("refusing to remove '.' or '..' directory: skipping ".toList ++ quoted path)
        else if recursive && (w.files.locate path).toOption = some [] then
          let w := w.complain 1 "it is dangerous to operate recursively on '/'".toList
          w.complain 1 "use --no-preserve-root to override this failsafe".toList
        else
          match w.files.lookAt path with
          | .error e =>
            if a.has 'f' && (e = .noEntry || e = .notDirectory) then w else w.refuse 1 about e
          | .ok (place, .directory) =>
            if recursive then { w with files := w.files.erase place }
            else if a.has 'd' then
              match w.files.removeDirectory path with
              | .ok files => { w with files }
              | .error e => w.refuse 1 about e
            else w.refuse 1 about .isDirectory
          | .ok (place, _) =>
            if endsInSlash path then w.refuse 1 about .notDirectory
            else { w with files := w.files.erase place }) w

/-- Makes sure that files are there. -/
def touch : Body :=
  withOptions
    { letters := "acd:fhmr:t:"
      words := [("no-create", 'c'), ("date", 'd'), ("reference", 'r'), ("time", 'a')]
      stopping := false } 1 fun a w =>
    if a.operands.isEmpty then w.misuse 1 "missing file operand".toList
    else
      a.operands.foldl (fun w path =>
        match w.files.lookUp path with
        | .ok _ => w
        | .error .noEntry =>
          if a.has 'c' then w
          else
            match w.files.update path id with
            | .ok files => { w with files }
            | .error e => w.refuse 1 ("cannot touch ".toList ++ quoted path) e
        | .error e => w.refuse 1 ("cannot touch ".toList ++ quoted path) e) w

/-- Changes the size of files. -/
def truncate : Body :=
  withOptions
    { letters := "cor:s:"
      words := [("no-create", 'c'), ("size", 's'), ("reference", 'r'), ("io-blocks", 'o')]
      stopping := false } 1 fun a w =>
    match a.value? 's', a.operands with
    | none, _ => w.misuse 1 "you must specify either '--size' or '--reference'".toList
    | some _, [] => w.misuse 1 "missing file operand".toList
    | some size, operands =>
      let sign := (size.head?).filter fun c => "+-<>".toList.contains c
      match size? (if sign.isSome then size.drop 1 else size) with
      | none => w.complain 1 ("Invalid number: ".toList ++ quoted size)
      | some n =>
        operands.foldl (fun w path =>
          let resize (content : Bytes) : Bytes :=
            let target :=
              match sign with
              | some '+' => content.length + n
              | some '-' => content.length - n
              | some '<' => min content.length n
              | some _ => max content.length n
              | none => n
            content.take target ++ List.replicate (target - content.length) 0
          if a.has 'c' && !w.files.contains path then w
          else
            match w.files.update path resize with
            | .ok files => { w with files }
            | .error e =>
              w.refuse 1 ("cannot open ".toList ++ quoted path ++ " for writing".toList) e)
          w

/-! ## Copying, moving and linking -/

/-- The files with what is at a place copied to another one.  Directories that are there already
keep what is in them. -/
def copyTree (files : Files) (source target : Place) : Files :=
  (files.nodes.filter fun entry => source.isPrefixOf entry.1).foldl (fun files entry =>
    let place := target ++ entry.1.drop source.length
    match entry.2, files.get? place with
    | .directory, some .directory => files
    | node, _ => files.put place node) files

/-- What a tool does with a source and a target. -/
abbrev Transfer := Arguments → (source target : Text) → Work → Work

/-- Copies a file or a directory. -/
def copyOne : Transfer := fun a source target w =>
  let recursive := a.hasOne "rRa"
  let found := if recursive && !a.has 'L' then w.files.lookAt source else w.files.lookUp source
  match found with
  | .error e => w.refuse 1 ("cannot stat ".toList ++ quoted source) e
  | .ok (origin, node) =>
    let creating (e : SystemError) : Work :=
      let what := if node = .directory then "directory " else "regular file "
      w.refuse 1 ("cannot create ".toList ++ what.toList ++ quoted target) e
    match w.files.locate (dropSlashes target) with
    | .error e => creating e
    | .ok place =>
      let old := w.files.get? place
      if node = .directory && !recursive then
        w.complain 1 ("-r not specified; omitting directory ".toList ++ quoted source)
      else if origin = place then
        w.complain 1
          (quoted source ++ " and ".toList ++ quoted target ++ " are the same file".toList)
      else if a.has 'n' && old.isSome then w
      else
        match node, old with
        | .directory, some .directory | .directory, none =>
          if origin.isPrefixOf place then
            w.complain 1 ("cannot copy a directory, ".toList ++ quoted source ++
              ", into itself, ".toList ++ quoted target)
          else if old.isNone && !(w.files.get? place.dropLast == some .directory) then
            creating .noEntry
          else { w with files := copyTree w.files origin place }
        | .directory, some _ =>
          w.complain 1 ("cannot overwrite non-directory ".toList ++ quoted target ++
            " with directory ".toList ++ quoted source)
        | _, some .directory =>
          w.complain 1
            ("cannot overwrite directory ".toList ++ quoted target ++ " with non-directory".toList)
        | .link path, _ => { w with files := (w.files.erase place).put place (.link path) }
        | .file content executable, none =>
          if endsInSlash target then creating .notDirectory
          else if a.has 's' then { w with files := w.files.put place (.link source) }
          else { w with files := w.files.put place (.file content executable) }
        | .tool tool, none => { w with files := w.files.put place (.tool tool) }
        | node, _ =>
          match Files.contentOf node with
          | .error e =>
            w.refuse 1 ("cannot open ".toList ++ quoted source ++ " for reading".toList) e
          | .ok content =>
            let content := if isInput w.files source then w.rest else content
            match w.writeTo target false content with
            | .ok w => w
            | .error e => creating e

/-- Moves a file or a directory. -/
def moveOne : Transfer := fun a source target w =>
  match w.files.lookAt source with
  | .error e => w.refuse 1 ("cannot stat ".toList ++ quoted source) e
  | .ok (origin, node) =>
    let moving (e : SystemError) : Work :=
      w.refuse 1 ("cannot move ".toList ++ quoted source ++ " to ".toList ++ quoted target) e
    if a.has 'n' && w.files.contains target then w
    else if (w.files.locateWith false (dropSlashes target)).toOption = some origin then
      w.complain 1 (quoted source ++ " and ".toList ++ quoted target ++ " are the same file".toList)
    else
      match w.files.rename source target with
      | .ok files => { w with files }
      | .error .invalid =>
        w.complain 1 ("cannot move ".toList ++ quoted source ++
          " to a subdirectory of itself, ".toList ++ quoted target)
      | .error .isDirectory =>
        w.complain 1
          ("cannot overwrite directory ".toList ++ quoted target ++ " with non-directory".toList)
      | .error .notDirectory =>
        if node = .directory && w.files.contains target then
          w.complain 1 ("cannot overwrite non-directory ".toList ++ quoted target ++
            " with directory ".toList ++ quoted source)
        else moving .notDirectory
      | .error e => moving e

/-- Gives a file one more place, or makes a link to it. -/
def linkOne : Transfer := fun a source target w =>
  let kind := if a.has 's' then "symbolic" else "hard"
  let about :=
    "failed to create ".toList ++ kind.toList ++ " link ".toList ++ quoted target
  let w := if a.has 'f' then
      match w.files.lookAt target with
      | .ok (_, .directory) | .error _ => w
      | .ok (place, _) => { w with files := w.files.erase place }
    else w
  let make (node : Node) : Work :=
    match w.files.create target node with
    | .ok files => { w with files }
    | .error .exists => w.refuse 1 about .exists
    | .error e =>
      w.refuse 1 (if a.has 's' then about else about ++ " => ".toList ++ quoted source) e
  if a.has 's' then make (.link source)
  else
    match w.files.lookAt source with
    | .error e => w.refuse 1 ("failed to access ".toList ++ quoted source) e
    | .ok (_, .directory) =>
      w.complain 1 (named source ++ ": hard link not allowed for directory".toList)
    | .ok (_, node) => make node

/-- Goes through sources and their target, which may be a directory that they go into. -/
def transfer (each : Transfer) (a : Arguments) (w : Work) : Work :=
  let isDirectory (path : Text) : Bool := w.files.isDirectory path
  let into (directory : Text) (sources : List Text) : Work :=
    sources.foldl (fun w source => each a source (inside directory (lastName source)) w) w
  match a.value? 't', a.operands with
  | some directory, sources =>
    if sources.isEmpty then w.misuse 1 "missing file operand".toList
    else if isDirectory directory then into directory sources
    else
      match w.files.lookUp directory with
      | .ok _ =>
        w.complain 1
          ("target directory ".toList ++ quoted directory ++ ": Not a directory".toList)
      | .error e => w.refuse 1 ("target directory ".toList ++ quoted directory) e
  | none, [] => w.misuse 1 "missing file operand".toList
  | none, [source] => w.misuse 1 ("missing destination file operand after ".toList ++ quoted source)
  | none, [source, target] =>
    if isDirectory target && !a.has 'T' then into target [source] else each a source target w
  | none, operands =>
    let target := operands.getLastD []
    if a.has 'T' then w.extraOperand 1 (operands.getD 2 [])
    else if isDirectory target then into target operands.dropLast
    else
      match w.files.lookUp target with
      | .ok _ => w.complain 1 ("target ".toList ++ quoted target ++ ": Not a directory".toList)
      | .error e => w.refuse 1 ("target ".toList ++ quoted target) e

/-- Copies files to other places. -/
def cp : Body :=
  withOptions
    { letters := "abdfHilLnpPrRsS:t:TuvxZ"
      words := [("archive", 'a'), ("force", 'f'), ("recursive", 'r'), ("no-clobber", 'n'),
        ("target-directory", 't'), ("no-target-directory", 'T'), ("verbose", 'v'),
        ("symbolic-link", 's'), ("update", 'u'), ("preserve", 'p'), ("link", 'l')]
      stopping := false } 1 (transfer copyOne)

/-- Moves files to other places. -/
def mv : Body :=
  withOptions
    { letters := "bfinS:t:TuvZ"
      words := [("force", 'f'), ("no-clobber", 'n'), ("target-directory", 't'),
        ("no-target-directory", 'T'), ("verbose", 'v'), ("update", 'u'), ("backup", 'b')]
      stopping := false } 1 (transfer moveOne)

/-- Gives files one more place. -/
def ln : Body :=
  withOptions
    { letters := "bdFfiLnPrsS:t:Tv"
      words := [("force", 'f'), ("symbolic", 's'), ("target-directory", 't'),
        ("no-target-directory", 'T'), ("no-dereference", 'n'), ("relative", 'r'),
        ("verbose", 'v'), ("logical", 'L'), ("physical", 'P')]
      stopping := false } 1 fun a w =>
    match a.operands with
    | [source] =>
      if a.has 't' then transfer linkOne a w
      else linkOne a source (if a.has 'T' then source else lastName source) w
    | [_, target] =>
      let isLink :=
        match w.files.lookAt target with
        | .ok (_, .link _) => true
        | _ => false
      let flat := a.has 'n' && isLink
      transfer linkOne
        (if flat then { a with choices := { letter := 'T', value := [] } :: a.choices } else a) w
    | _ => transfer linkOne a w

/-! ## Permissions -/

/-- Whether a file can be run after a change of what may be done with it; `none` if that makes no
sense. -/
def changedMode? (mode : Text) (isDirectory executable : Bool) : Option Bool :=
  match Text.numeral? 8 mode with
  | some n => some ([1, 8, 64].any fun bit => n / bit % 2 == 1)
  | none =>
    (Text.splitOn (· == ',') mode).foldl (fun (result : Option Bool) clause =>
      result.bind fun executable =>
        let rest := clause.dropWhile fun c => "ugoa".toList.contains c
        match rest with
        | sign :: letters =>
          if !"+-=".toList.contains sign ||
            letters.any fun c => !"rwxXst".toList.contains c then none
          else
            let names := letters.contains 'x' ||
              letters.contains 'X' && (isDirectory || executable)
            match sign with
            | '+' => some (executable || names)
            | '-' => some (executable && !names)
            | _ => some names
        | [] => none) (some executable)

/-- Changes what may be done with files. -/
def chmod : Body := fun args =>
  let guarded := args.map fun arg =>
    match arg with
    | '-' :: c :: _ => if "rwxXst=0123456789".toList.contains c then "a".toList ++ arg else arg
    | _ => arg
  withOptions
    { letters := "cfvR"
      words := [("recursive", 'R'), ("silent", 'f'), ("quiet", 'f'), ("verbose", 'v'),
        ("changes", 'c')]
      stopping := false } 1 (fun a w =>
    match a.operands with
    | [] => w.lackOperand 1
    | [mode] => w.misuse 1 ("missing operand after ".toList ++ quoted mode)
    | mode :: paths =>
      if (changedMode? mode false false).isNone then
        w.misuse 1 ("invalid mode: ".toList ++ quoted mode)
      else
        let change (files : Files) (place : Place) : Files :=
          match files.get? place with
          | some (.file content executable) =>
            files.put place (.file content ((changedMode? mode false executable).getD executable))
          | _ => files
        paths.foldl (fun w path =>
          match w.files.lookUp path with
          | .error e =>
            if a.has 'f' then w.withCode 1
            else w.refuse 1 ("cannot access ".toList ++ quoted path) e
          | .ok (place, _) =>
            let places :=
              if a.has 'R' then
                ((w.files.nodes.filter fun entry => place.isPrefixOf entry.1).map Prod.fst)
              else [place]
            { w with files := places.foldl change w.files }) w) guarded

/-! ## Names that nobody uses -/

/-- The letters of names that are made up. -/
def nameLetters : Text :=
  "abcdefghijklmnopqrstuvwxyzABCDEFGHIJKLMNOPQRSTUVWXYZ0123456789".toList

/-- A name of some letters for each number. -/
def madeUp (length n : Nat) : Text :=
  (List.range length).map fun k =>
    nameLetters.getD ((n / Nat.pow 62 k + 7 * k) % 62) 'a'

/-- Makes a file or a directory that nobody else uses. -/
def mktemp : Body :=
  withOptions
    { letters := "dp:qtuS:"
      words := [("directory", 'd'), ("tmpdir", 'p'), ("quiet", 'q'), ("dry-run", 'u'),
        ("suffix", 'S')]
      stopping := false } 1 fun a w =>
    let template := a.operands.headD "tmp.XXXXXXXXXX".toList
    let standard := ((w.env.get? "TMPDIR").filter fun d => !d.isEmpty).getD "/tmp".toList
    let directory : Option Text :=
      match a.value? 'p' with
      | some d => some (if d.isEmpty then standard else d)
      | none => if a.operands.isEmpty || a.has 't' then some standard else none
    let path := (directory.elim template fun d => inside d template) ++ (a.value? 'S').getD []
    let behind := path.reverse.takeWhile (· != 'X')
    let signs := ((path.reverse.drop behind.length).takeWhile (· == 'X')).length
    match a.operands with
    | _ :: extra :: _ => w.misuse 1 ("too many templates".toList ++ extra.take 0)
    | _ =>
      if signs < 3 then
        w.complain 1 ("too few X's in template ".toList ++ quoted template)
      else
        let lead := path.take (path.length - behind.length - signs)
        let candidates := (List.range 100).map fun n => lead ++ madeUp signs n ++ behind.reverse
        match candidates.find? fun p => !w.files.contains p with
        | none => w.withCode 1
        | some chosen =>
          let what := if a.has 'd' then "directory" else "file"
          let node : Node := if a.has 'd' then .directory else .file [] false
          match if a.has 'u' then .ok w.files else w.files.create chosen node with
          | .ok files => { w with files }.print (chosen ++ ['\n'])
          | .error e =>
            if a.has 'q' then w.withCode 1
            else
              let about := "failed to create ".toList ++ what.toList
              w.refuse 1 (about ++ " via template ".toList ++ quoted path) e

end Hotkeys.Tools
