import DecoderKit.Command.Tool
import DecoderKit.Proofs.Command.DumpRun
import DecoderKit.Proofs.Command.TableRun
import DecoderKit.Proofs.Files.PathOrder

/-!
# Which paths stand for the standard input

The path that stands for the standard input is a hyphen by its steps, and a path may spell its
steps in many ways. Slashes cut it into parts. An empty part is no step, nor is a dot, unless it is
the first part: the one belongs to a path from the root, the other is a step of its own there. So
the first part has to be the hyphen, and behind it there is room for slashes only, each with a dot
behind it or without (`Path.isStandardInput_iff`).

Where the text comes from depends on that spelling and on nothing else. `TakesFrom` says what it
means that a path leads to some source: whatever the host is like, reading and the runs of the
tools see what the source gives and, besides the environment, nothing more of the host. A file
that is named by a hyphen is not seen then. Neither source need give anything: a file may be
missing, and the standard input may be a directory. What is said then has the path in it.
-/

namespace DecoderKit

namespace Path

open Command (hyphen)

/-- The path is a hyphen and slashes behind it, each with a dot behind it or without. -/
def IsHyphen (p : Path) : Prop :=
  ∃ groups : List Bytes, (∀ group ∈ groups, group = [slash] ∨ group = slash :: dot)
    ∧ p.bytes = hyphen :: groups.flatten

variable {p : Path} {part : Name} {parts : List Name}

/-! ## The parts of a path -/

/-- A list is its parts with the separator in front of each but the first. -/
theorem intercalate_cons_eq {α : Type} (separator : α) (part : List α) (parts : List (List α)) :
    [separator].intercalate (part :: parts)
      = part ++ (parts.map (separator :: ·)).flatten := by
  induction parts generalizing part with
  | nil => simp
  | cons next parts ih =>
      rw [List.intercalate_cons_cons, ih, List.append_assoc, List.map_cons, List.flatten_cons]
      rfl

theorem component?_eq_none_iff : component? part = none ↔ part = [] ∨ part = dot := by
  rw [component?]
  by_cases h : part = [] ∨ part = dot
  · simp [h]
  · by_cases hup : part = dotDot
    · simp [hup, dotDot, dot]
    · simp [h, hup]

theorem eq_of_component?_eq_name {name : Name} (h : component? part = some (.name name)) :
    part = name := by
  rw [component?] at h
  split at h
  · exact absurd h (by simp)
  · split at h
    · exact absurd h (by simp)
    · exact Component.name.inj (Option.some.inj h)

/-- A path is a hyphen if its parts are the hyphen and, behind it, nothing and dots. -/
theorem isHyphen_iff_parts : p.IsHyphen ↔ ∃ parts, p.bytes.splitOn slash = [hyphen] :: parts
    ∧ ∀ part ∈ parts, part = [] ∨ part = dot := by
  constructor
  · -- each group is a slash and a part
    rintro ⟨groups, hgroups, hbytes⟩
    have hparts : (groups.map List.tail).map (slash :: ·) = groups := by
      rw [List.map_map]
      refine (List.map_congr_left fun group hgroup => ?_).trans (List.map_id groups)
      rcases hgroups group hgroup with rfl | rfl <;> rfl
    have htails : ∀ part ∈ groups.map List.tail, part = [] ∨ part = dot := by
      intro part hpart
      obtain ⟨group, hgroup, rfl⟩ := List.mem_map.mp hpart
      exact (hgroups group hgroup).imp (congrArg List.tail) (congrArg List.tail)
    refine ⟨groups.map List.tail, ?_, htails⟩
    have hjoined : p.bytes = [slash].intercalate ([hyphen] :: groups.map List.tail) := by
      rw [intercalate_cons_eq, hparts, hbytes]
      rfl
    have hfree : ∀ part ∈ [hyphen] :: groups.map List.tail, slash ∉ part := by
      refine List.forall_mem_cons.mpr ⟨by decide, fun part hpart => ?_⟩
      rcases htails part hpart with rfl | rfl <;> decide
    rw [hjoined, List.splitOn_intercalate slash hfree (List.cons_ne_nil _ _)]
  · -- the parts are put together again, with a slash in front of each
    rintro ⟨parts, hsplit, hparts⟩
    refine ⟨parts.map (slash :: ·), fun group hgroup => ?_, ?_⟩
    · obtain ⟨part, hpart, rfl⟩ := List.mem_map.mp hgroup
      exact (hparts part hpart).imp (congrArg (slash :: ·)) (congrArg (slash :: ·))
    · have hjoined : [slash].intercalate (p.bytes.splitOn slash) = p.bytes :=
        List.intercalate_splitOn slash
      rw [hsplit, intercalate_cons_eq] at hjoined
      exact hjoined.symm

/-- **A path stands for the standard input exactly if it is a hyphen with slashes and dots.** -/
theorem isStandardInput_iff : p.isStandardInput = true ↔ p.IsHyphen := by
  obtain ⟨b⟩ := p
  obtain ⟨part, parts, hsplit⟩ := List.exists_cons_of_ne_nil (List.splitOn_ne_nil slash b)
  have hbytes : b = part ++ (parts.map (slash :: ·)).flatten := by
    rw [← intercalate_cons_eq, ← hsplit, List.intercalate_splitOn]
  rw [isHyphen_iff_parts, isStandardInput, beq_iff_eq, components_eq, hsplit]
  constructor
  · intro h
    by_cases hroot : b.head? = some slash
    · exact absurd h (by simp [hroot])
    by_cases hhere : (part :: parts).head? = some dot
    · exact absurd h (by simp [hroot, hhere])
    rw [if_neg hroot, if_neg hhere, List.nil_append] at h
    -- the first part is not skipped, so it is the one step that there is
    have hstep : component? part ≠ none := by
      intro hnone
      rcases component?_eq_none_iff.mp hnone with rfl | rfl
      · cases parts with
        | nil => exact absurd h (by simp [component?])
        | cons next parts => exact hroot (by rw [hbytes]; rfl)
      · exact hhere rfl
    obtain ⟨step, hstep⟩ := Option.ne_none_iff_exists'.mp hstep
    rw [List.filterMap_cons_some hstep] at h
    obtain ⟨rfl, hrest⟩ := List.cons.inj h
    refine ⟨parts, by rw [eq_of_component?_eq_name hstep]; rfl, fun next hnext => ?_⟩
    exact component?_eq_none_iff.mp (List.filterMap_eq_nil_iff.mp hrest next hnext)
  · -- the hyphen is neither the root nor a dot, so it is the first step and the last
    rintro ⟨parts', hparts, hskipped⟩
    obtain ⟨rfl, rfl⟩ := List.cons.inj hparts
    have hroot : b.head? ≠ some slash := by
      rw [hbytes, List.cons_append, List.head?_cons]
      decide
    have hhere : ([hyphen] :: parts).head? ≠ some dot := by
      rw [List.head?_cons]
      decide
    have hrest : parts.filterMap component? = [] :=
      List.filterMap_eq_nil_iff.mpr fun next hnext =>
        component?_eq_none_iff.mpr (hskipped next hnext)
    rw [if_neg hroot, if_neg hhere, List.nil_append, List.filterMap_cons_some (by rfl), hrest]
    rfl

end Path

namespace Command

variable {kit : Kit} {p : Path} {words : List Bytes} {host host' : Host} {operation : Text}
  {source : Host → Except IoError Bytes} {tool : Tool}

/-- What is read from the path comes from the source, by this operation, and so does what a tool
makes of it. -/
structure TakesFrom (p : Path) (operation : Text) (source : Host → Except IoError Bytes) :
    Prop where
  text : ∀ host t, host.read p = .ok t ↔ source host = .ok (Utf8.encode t)
  failure : ∀ host diagnosis, host.read p = .error diagnosis ↔
    ∃ error, Lacks (source host) error
      ∧ diagnosis = { message := failureText operation p error, source := some error.text }
  /-- Two hosts that agree on the source and on the environment cannot be told apart. Their standard
  inputs may differ, if no file is another name for them. -/
  alike : ∀ host host', source host = source host' → host.read p = host'.read p
    ∧ (host.environment = host'.environment → ∀ kit (tool : Tool) words,
      tool.input? kit host.environment words = some p →
      tool.run kit host words = tool.run kit host' words)
  fails : ∀ kit host (tool : Tool) words error, Lacks (source host) error →
    tool.input? kit host.environment words = some p →
    tool.run kit host words
      = { exitCode := 1, output := [], errorOutput := failureText operation p error ++ ['\n'] }
  converts : ∀ kit host words request t, source host = .ok (Utf8.encode t) →
    kit.tableParser host.environment words = .given request → request.input = some p →
    TableTool.run kit host words
      = .ended ((host.subscriber kit.log).addAll [] (TableTool.tableEvents t))
        (TableTool.answer kit request t)
  shows : ∀ kit host words request t, source host = .ok (Utf8.encode t) →
    kit.dumpParser host.environment words = .given request → request.input = some p →
    DumpTool.run kit host words
      = .ended ((host.subscriber kit.log).addAll [] (DumpTool.listEvents t))
        (DumpTool.answer t)

/-! ## Runs with an input -/

theorem request_of_input? {environment : Environment}
    (h : tool.input? kit environment words = some p) :
    (tool = .table ∧ ∃ request, kit.tableParser environment words = .given request
        ∧ request.input = some p)
      ∨ tool = .dump ∧ ∃ request, kit.dumpParser environment words = .given request
        ∧ request.input = some p := by
  cases tool with
  | corpus => exact absurd h (by simp [Tool.input?])
  | table =>
      rw [Tool.input?] at h
      cases hparsed : kit.tableParser environment words with
      | given request =>
          rw [hparsed] at h
          exact Or.inl ⟨rfl, request, rfl, h⟩
      | _ => exact absurd h (by simp [hparsed, Parsed.given?])
  | dump =>
      rw [Tool.input?] at h
      cases hparsed : kit.dumpParser environment words with
      | given request =>
          rw [hparsed] at h
          exact Or.inr ⟨rfl, request, rfl, h⟩
      | _ => exact absurd h (by simp [hparsed, Parsed.given?])

/-- What a run of the table tool comes to depends on what has been read. -/
theorem TableTool.run_of_input {request : TableTool.Request}
    (hgiven : kit.tableParser host.environment words = .given request)
    (hinput : request.input = some p) : TableTool.run kit host words = match host.read p with
      | .error diagnosis => .ended [] (.error diagnosis)
      | .ok t => .ended ((host.subscriber kit.log).addAll [] (TableTool.tableEvents t))
        (TableTool.answer kit request t) := by
  have htext : TableTool.text host request = host.read p := by rw [TableTool.text, hinput]
  rw [TableTool.run_of_given hgiven, TableTool.resultOf, htext]
  cases host.read p <;> rfl

/-- What a run of the dump tool comes to depends on what has been read. -/
theorem DumpTool.run_of_input {request : DumpTool.Request}
    (hgiven : kit.dumpParser host.environment words = .given request)
    (hinput : request.input = some p) : DumpTool.run kit host words = match host.read p with
      | .error diagnosis => .ended [] (.error diagnosis)
      | .ok t => .ended ((host.subscriber kit.log).addAll [] (DumpTool.listEvents t))
        (DumpTool.answer t) := by
  rw [DumpTool.run_of_given hgiven, DumpTool.dumpOf, hinput]
  cases hread : host.read p with
  | error diagnosis =>
      simp only [hread]
      rfl
  | ok t => simp only [hread, DumpTool.answer]

/-- A run with an input reports what there is to tell of its text and makes an answer of it, if it
can be read, and besides the environment it looks at no more of the host. -/
theorem Tool.exists_run_of_input {environment : Environment}
    (hinput : tool.input? kit environment words = some p) :
    ∃ (events : Text → List Log.Event) (answer : Text → Except Diagnosis Text),
      ∀ host : Host, host.environment = environment →
        tool.run kit host words = match host.read p with
        | .error diagnosis => .ended [] (.error diagnosis)
        | .ok t => .ended ((host.subscriber kit.log).addAll [] (events t)) (answer t) := by
  rcases request_of_input? hinput with
    ⟨rfl, request, hgiven, hpath⟩ | ⟨rfl, request, hgiven, hpath⟩
  · refine ⟨TableTool.tableEvents, TableTool.answer kit request, fun host henvironment => ?_⟩
    exact TableTool.run_of_input (henvironment ▸ hgiven) hpath
  · refine ⟨DumpTool.listEvents, DumpTool.answer, fun host henvironment => ?_⟩
    exact DumpTool.run_of_input (henvironment ▸ hgiven) hpath

/-- What is read from a path comes from what the path stands for. -/
theorem takesFrom_source (p : Path) :
    TakesFrom p (readingOperation p) fun host => host.source p where
  text host t := Host.read_ok_iff
  failure host diagnosis := Host.read_error_iff
  alike host host' hsource := by
    have hread : host.read p = host'.read p := by
      rw [Host.read_eq, hsource, ← Host.read_eq]
    refine ⟨hread, fun henvironment kit tool words hinput => ?_⟩
    have hsubscriber : host.subscriber kit.log = host'.subscriber kit.log := by
      rw [Host.subscriber, henvironment, Host.subscriber]
    obtain ⟨events, answer, hrun⟩ := Tool.exists_run_of_input hinput
    rw [hrun host rfl, hrun host' henvironment.symm, hread, hsubscriber]
  fails kit host tool words error hlacks hinput := by
    obtain ⟨events, answer, hrun⟩ := Tool.exists_run_of_input hinput
    rw [hrun host rfl, Host.read_error_iff.mpr ⟨error, hlacks, rfl⟩]
    rfl
  converts kit host words request t hsource hgiven hpath := by
    rw [TableTool.run_of_input hgiven hpath, Host.read_ok_iff.mpr hsource]
  shows kit host words request t hsource hgiven hpath := by
    rw [DumpTool.run_of_input hgiven hpath, Host.read_ok_iff.mpr hsource]

/-- The word that names an input. -/
def inputWord (p : Path) : Bytes := Utf8.encode "--input=".toList ++ p.bytes

/-- The word is read as the option and its value, whatever bytes the value has. -/
theorem Arguments.read_inputWord {options : Options}
    (hoption : option? options [0x69, 0x6e, 0x70, 0x75, 0x74] = some ("input", .value)) :
    Arguments.read options {} [inputWord p] = .ok { options := [("input", some p.bytes)] } := by
  have hword : inputWord p
      = 0x2d :: 0x2d :: 0x69 :: ([0x6e, 0x70, 0x75, 0x74] ++ equalsSign :: p.bytes) := by
    have hencoded : Utf8.encode "--input=".toList
        = [0x2d, 0x2d, 0x69, 0x6e, 0x70, 0x75, 0x74, equalsSign] := by decide +kernel
    rw [inputWord, hencoded]
    rfl
  have hsplit : nameAndValue (0x69 :: ([0x6e, 0x70, 0x75, 0x74] ++ equalsSign :: p.bytes))
      = ([0x69, 0x6e, 0x70, 0x75, 0x74], some p.bytes) := rfl
  rw [hword, Arguments.read]
  · simp only [hsplit, hoption]
    rfl
  · simp

/-- The plain parsers take the path from the word that names it, whatever bytes it has. -/
theorem input?_inputWord (hne : p.bytes ≠ []) (environment : Environment) :
    Tool.input? .table plainKit environment [inputWord p] = some p
      ∧ Tool.input? .dump plainKit environment [inputWord p] = some p := by
  have hpath : Arguments.path? { options := [("input", some p.bytes)] } "input"
      = some (some p) := if_neg hne
  have htable : plainKit.tableParser environment [inputWord p] = .given { input := some p } := by
    show TableTool.parser environment [inputWord p] = _
    rw [TableTool.parser, Arguments.read_inputWord (by decide +kernel), Parsed.ofRead,
      TableTool.request?, hpath]
    rfl
  have hdump : plainKit.dumpParser environment [inputWord p] = .given { input := some p } := by
    show DumpTool.parser environment [inputWord p] = _
    rw [DumpTool.parser, Arguments.read_inputWord (by decide +kernel), Parsed.ofRead,
      DumpTool.request?, hpath]
    rfl
  rw [Tool.input?, Tool.input?, htable, hdump]
  exact ⟨rfl, rfl⟩

/-- **Which input is read.** A path takes its text from the standard input exactly if it is a hyphen
with slashes and dots behind it, and from its file exactly if it is none. Any path but the empty one
can be given to the tools that take an input. -/
theorem takesFrom_iff (p : Path) :
    (TakesFrom p "reading".toList (fun host => host.input) ↔ p.IsHyphen)
      ∧ (TakesFrom p "reading input file".toList (fun host => host.disk.content p)
        ↔ ¬ p.IsHyphen)
      ∧ (p.bytes ≠ [] → ∀ environment,
        Tool.input? .table plainKit environment [inputWord p] = some p
          ∧ Tool.input? .dump plainKit environment [inputWord p] = some p) := by
  -- a host without files and with nothing to read tells the two sources apart
  have hread : (bareHost (.ok [])).read p = .ok []
      ↔ (bareHost (.ok [])).source p = .ok (Utf8.encode []) := Host.read_ok_iff
  rw [← Path.isStandardInput_iff]
  refine ⟨⟨fun h => ?_, fun hstandard => ?_⟩, ⟨fun h hstandard => ?_, fun hfile => ?_⟩,
    input?_inputWord⟩
  · -- reading would find no file, and yet an empty text
    by_contra hfile
    rw [Host.source, if_neg hfile] at hread
    exact absurd (hread.mp ((h.text _ _).mpr rfl)) (by simp [bareHost])
  · have hsource : (fun host : Host => host.source p) = fun host => host.input := by
      funext host
      rw [Host.source, if_pos hstandard]
    have htakes := takesFrom_source p
    rwa [hsource, readingOperation, if_pos hstandard] at htakes
  · -- the standard input is there, although there is no file
    rw [Host.source, if_pos hstandard] at hread
    exact absurd ((h.text _ _).mp (hread.mpr rfl)) (by simp [bareHost])
  · have hsource : (fun host : Host => host.source p) = fun host => host.disk.content p := by
      funext host
      rw [Host.source, if_neg hfile]
    have htakes := takesFrom_source p
    rwa [hsource, readingOperation, if_neg hfile] at htakes

/-- A working directory that has a file of the name that stands for the standard input. -/
def shadowingTree : FileTree where
  nodes := [([[hyphen]], .file (Utf8.encode "3".toList))]
  working := []

/-- With slashes and dots behind the hyphen the standard input is read, and its line ends are kept.
With a dot in front the file is read. And where there is nothing to read, the hyphen is named. -/
theorem takesFrom_iff_shadowed :
    let host : Host :=
      { disk := shadowingTree.disk, input := .ok (Utf8.encode "1,\r\n2".toList),
        environment := {} }
    host.read (.ofText "-//./".toList) = .ok "1,\r\n2".toList
      ∧ host.read (.ofText "./-".toList) = .ok "3".toList
      ∧ (DumpTool.run plainKit host [Utf8.encode "--input=-//./".toList]).output
        = Dump.describe [1, 2] ++ ['\n']
      ∧ (DumpTool.run plainKit host [Utf8.encode "--input=./-".toList]).output
        = Dump.describe [3] ++ ['\n']
      ∧ (DumpTool.run plainKit (bareHost (.error .isDirectory))
          [Utf8.encode "--input=-//./".toList]).errorOutput
        = ("Error reading '-//./': Is a directory (os error 21). "
          ++ "Check the path and try again.\n").toList := by
  intro host
  have hhyphen : (Path.ofText "-//./".toList).IsHyphen := by
    refine ⟨[[Path.slash], Path.slash :: Path.dot, [Path.slash]], ?_, by decide +kernel⟩
    decide
  have hnot : ¬ (Path.ofText "./-".toList).IsHyphen :=
    mt Path.isStandardInput_iff.mpr (by decide +kernel)
  have hcontent : host.disk.content (.ofText "./-".toList) = .ok (Utf8.encode "3".toList) := by
    decide +kernel
  have hword : inputWord (.ofText "-//./".toList) = Utf8.encode "--input=-//./".toList := by
    decide +kernel
  have hword' : inputWord (.ofText "./-".toList) = Utf8.encode "--input=./-".toList := by
    decide +kernel
  obtain ⟨hstandard, _, hnamed⟩ := takesFrom_iff (.ofText "-//./".toList)
  obtain ⟨_, hfile, hnamed'⟩ := takesFrom_iff (.ofText "./-".toList)
  have hinput := (hnamed (by decide +kernel) {}).2
  have hinput' := (hnamed' (by decide +kernel) {}).2
  rw [hword] at hinput
  rw [hword'] at hinput'
  obtain ⟨_, request, hgiven, hpath⟩ := (request_of_input? hinput).resolve_left (by simp)
  obtain ⟨_, request', hgiven', hpath'⟩ := (request_of_input? hinput').resolve_left (by simp)
  have htakes := hstandard.mpr hhyphen
  have htakes' := hfile.mpr hnot
  refine ⟨(htakes.text _ _).mpr rfl, (htakes'.text _ _).mpr hcontent, ?_, ?_, ?_⟩
  · rw [htakes.shows plainKit host _ request _ rfl hgiven hpath]
    decide +kernel
  · rw [htakes'.shows plainKit host _ request' _ hcontent hgiven' hpath']
    decide +kernel
  · have hfails := htakes.fails plainKit (bareHost (.error .isDirectory)) .dump
      [Utf8.encode "--input=-//./".toList] _ (.unreadable rfl) hinput
    rw [Tool.run] at hfails
    rw [hfails]
    decide +kernel

end Command

end DecoderKit
