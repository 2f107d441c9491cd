import DecoderKit.Files.Tree

/-!
# Where a path leads

`FileTree.resolve` looks a path up by two nested recursions, over its names and over the
links that may still be followed. Here a path is looked up one name at a time. A `Walker`
stands somewhere with names still to look up; `Step` says what looking up the first of them
does, `Stuck` why it cannot be done. A path leads to a place if steps get there with no
name left and no more links followed than the system allows, and what is said of any other
path is its `Verdict` as well.

`resolve_eq_iff` says that the recursions come to that verdict and to no other. They always
end, so every walk does: it arrives, it gets stuck, or it follows too many links. The last
is the fate of a walk that a link brings back to where it has been.
-/

namespace DecoderKit.FileTree

/-- A walk on its way: where it stands, and the names still to look up. -/
structure Walker where
  place : Location
  names : List Name

/-- A directory is searched for a name, and this is what it has under it. -/
structure Finds (tree : FileTree) (place : Location) (name : Name) (found : Option Node) :
    Prop where
  directory : tree.node? place = some .directory
  notDot : name ≠ Path.dot
  notDotDot : name ≠ Path.dotDot
  short : name.length ≤ nameLimit
  found : tree.node? (place ++ [name]) = found

/-- One name is looked up. The number is that of the links followed. -/
inductive Step (tree : FileTree) : Walker → Nat → Walker → Prop where
  | stay {place : Location} {rest : List Name} : tree.node? place = some .directory →
      Step tree ⟨place, Path.dot :: rest⟩ 0 ⟨place, rest⟩
  | up {place : Location} {rest : List Name} : tree.node? place = some .directory →
      Step tree ⟨place, Path.dotDot :: rest⟩ 0 ⟨place.dropLast, rest⟩
  | enter {place : Location} {name : Name} {rest : List Name} {node : Node} :
      Finds tree place name (some node) → (∀ target, node ≠ .link target) →
      Step tree ⟨place, name :: rest⟩ 0 ⟨place ++ [name], rest⟩
  | follow {place : Location} {name : Name} {rest : List Name} {target : Bytes} :
      Finds tree place name (some (.link target)) →
      Step tree ⟨place, name :: rest⟩ 1 ⟨startOf place target, namesOf target ++ rest⟩

/-- Steps one after the other, with the number of all links followed. -/
inductive Steps (tree : FileTree) : Walker → Nat → Walker → Prop where
  | refl (w : Walker) : Steps tree w 0 w
  | head {u v w : Walker} {i k : Nat} : Step tree u i v → Steps tree v k w →
      Steps tree u (i + k) w

/-- The next name cannot be looked up, and this is why. -/
inductive Stuck (tree : FileTree) : Walker → IoError → Prop where
  | notDirectory {place : Location} {name : Name} {rest : List Name} :
      tree.node? place ≠ some .directory → Stuck tree ⟨place, name :: rest⟩ .notDirectory
  | tooLong {place : Location} {name : Name} {rest : List Name} :
      tree.node? place = some .directory → name ≠ Path.dot → name ≠ Path.dotDot →
      nameLimit < name.length → Stuck tree ⟨place, name :: rest⟩ .nameTooLong
  | missing {place : Location} {name : Name} {rest : List Name} :
      Finds tree place name none → Stuck tree ⟨place, name :: rest⟩ .noEntry

/-- How a walk ends that may follow so many links: at a place, or with an error. -/
inductive Ends (tree : FileTree) (links : Nat) (u : Walker) : Except IoError Location → Prop where
  | arrived {k : Nat} {place : Location} : k ≤ links → Steps tree u k ⟨place, []⟩ →
      Ends tree links u (.ok place)
  | stuck {k : Nat} {w : Walker} {e : IoError} : k ≤ links → Steps tree u k w → Stuck tree w e →
      Ends tree links u (.error e)
  | tooManyLinks {w : Walker} : Steps tree u (links + 1) w →
      Ends tree links u (.error .tooManyLinks)

/-- A path that is looked up at all. -/
structure Walkable (p : Path) : Prop where
  noZero : 0 ∉ p.bytes
  nonempty : p.bytes ≠ []
  short : p.bytes.length < pathLimit

/-- The walk along a path, before its first step. -/
def walker (tree : FileTree) (p : Path) : Walker :=
  ⟨startOf tree.working p.bytes, namesOf p.bytes⟩

/-- What the system says of a path: the place where it leads, or an error. -/
inductive Verdict (tree : FileTree) (p : Path) : Except IoError Location → Prop where
  | zeroByte : 0 ∈ p.bytes → Verdict tree p (.error .zeroByte)
  | empty : p.bytes = [] → Verdict tree p (.error .noEntry)
  | tooLong : 0 ∉ p.bytes → pathLimit ≤ p.bytes.length → Verdict tree p (.error .nameTooLong)
  | walked {answer : Except IoError Location} : Walkable p →
      Ends tree linkLimit (tree.walker p) answer → Verdict tree p answer

variable {tree : FileTree} {u v w : Walker}

theorem Step.single {i : Nat} (h : Step tree u i v) : Steps tree u i v :=
  Steps.head h (Steps.refl v)

theorem Steps.trans {i k : Nat} (h : Steps tree u i v) (h' : Steps tree v k w) :
    Steps tree u (i + k) w := by
  induction h with
  | refl => rwa [Nat.zero_add]
  | head hstep _ ih =>
      rw [Nat.add_assoc]
      exact Steps.head hstep (ih h')

/-! ## What the recursions do with a step -/

theorem stretch_of_finds {place : Location} {name : Name} {rest : List Name}
    {found : Option Node} (h : Finds tree place name found) :
    tree.stretch place (name :: rest) = match tree.node? (place ++ [name]) with
      | none => if rest = [] then .ok (.vacant (place ++ [name])) else .error .noEntry
      | some (.link target) => .ok (.link place target rest)
      | some _ => tree.stretch (place ++ [name]) rest := by
  rw [stretch, if_neg (by rw [h.directory]; simp), if_neg h.notDot, if_neg h.notDotDot]
  exact if_neg (Nat.not_lt.mpr h.short)

/-- A step that follows no link leaves the rest of the stretch. -/
theorem stretch_of_step (h : Step tree u 0 v) :
    tree.stretch u.place u.names = tree.stretch v.place v.names := by
  cases h with
  | stay hdir => rw [stretch, if_neg (by rw [hdir]; simp), if_pos rfl]
  | up hdir =>
      rw [stretch, if_neg (by rw [hdir]; simp), if_neg (by decide), if_pos rfl]
  | @enter place name rest node hfinds hnode =>
      rw [stretch_of_finds hfinds, hfinds.found]
      cases node with
      -- a link is not entered
      | link target => exact absurd rfl (hnode target)
      | directory => rfl
      | file content => rfl
      | device => rfl

/-- A step that follows a link ends the stretch there. -/
theorem stretch_of_follow (h : Step tree u 1 v) :
    ∃ directory target rest, tree.stretch u.place u.names = .ok (.link directory target rest)
      ∧ v = ⟨startOf directory target, namesOf target ++ rest⟩ := by
  cases h with
  | follow hfinds => exact ⟨_, _, _, by rw [stretch_of_finds hfinds, hfinds.found], rfl⟩

theorem Step.count_le {i : Nat} (h : Step tree u i v) : i = 0 ∨ i = 1 := by
  cases h with
  | stay => exact Or.inl rfl
  | up => exact Or.inl rfl
  | enter => exact Or.inl rfl
  | follow => exact Or.inr rfl

/-- A walk goes on from where a step has led, with the links that are left. -/
theorem walk_of_step {i : Nat} (links : Nat) (h : Step tree u i v) :
    tree.walk (links + i) u.place u.names = tree.walk links v.place v.names := by
  rcases h.count_le with rfl | rfl
  · rw [Nat.add_zero, walk, stretch_of_step h, ← walk]
  · obtain ⟨directory, target, rest, hstretch, rfl⟩ := stretch_of_follow h
    rw [walk, hstretch]

theorem walk_of_steps {k : Nat} (links : Nat) (h : Steps tree u k v) :
    tree.walk (links + k) u.place u.names = tree.walk links v.place v.names := by
  induction h with
  | refl => rfl
  | @head _ _ _ i k hstep _ ih =>
      rw [Nat.add_comm i k, ← Nat.add_assoc, walk_of_step _ hstep, ih]

/-- A walk that still has a link to follow when no more are allowed is given up. -/
theorem walk_of_too_many {k : Nat} (h : Steps tree u k v) :
    ∀ links, k = links + 1 → tree.walk links u.place u.names = .error .tooManyLinks := by
  induction h with
  | refl => intro links hk; omega
  | @head _ _ _ i k hstep _ ih =>
      intro links hk
      rcases hstep.count_le with rfl | rfl
      · -- no link is followed here, so the one too many is still ahead
        have hwalk := walk_of_step links hstep
        rw [Nat.add_zero] at hwalk
        rw [hwalk, ih links (by omega)]
      · cases links with
        -- this is the link that is one too many
        | zero =>
            obtain ⟨directory, target, rest, hstretch, -⟩ := stretch_of_follow hstep
            rw [walk, hstretch]
        | succ links => rw [walk_of_step links hstep, ih links (by omega)]

/-- What a walk's end says of the path: a vacant spot is no place. -/
def arrival : Except IoError Spot → Except IoError Location
  | .error e => .error e
  | .ok (.found place) => .ok place
  | .ok (.vacant _) => .error .noEntry

theorem arrival_of_stuck {e : IoError} (links : Nat) (h : Stuck tree u e) :
    arrival (tree.walk links u.place u.names) = .error e := by
  cases h with
  | notDirectory hdir => rw [walk, stretch, if_pos hdir, arrival]
  | tooLong hdir hdot hdotDot hlong =>
      rw [walk, stretch, if_neg (by rw [hdir]; simp), if_neg hdot, if_neg hdotDot,
        if_pos hlong, arrival]
  | @missing place name rest hfinds =>
      rw [walk, stretch_of_finds hfinds, hfinds.found]
      -- a vacant spot and a missing directory are the same error here
      by_cases hrest : rest = []
      · rw [if_pos hrest]; rfl
      · rw [if_neg hrest]; rfl

/-! ## Where the recursions stop -/

/-- A stretch goes by steps that follow no link: to its end, to where it is stuck, or to a link. -/
inductive Traced (tree : FileTree) (u : Walker) : Except IoError Stretch → Prop where
  | found {place : Location} : Steps tree u 0 ⟨place, []⟩ → Traced tree u (.ok (.found place))
  | vacant {place : Location} {w : Walker} : Steps tree u 0 w → Stuck tree w .noEntry →
      Traced tree u (.ok (.vacant place))
  | link {directory : Location} {target : Bytes} {rest : List Name} :
      Steps tree u 1 ⟨startOf directory target, namesOf target ++ rest⟩ →
      Traced tree u (.ok (.link directory target rest))
  | stuck {w : Walker} {e : IoError} : Steps tree u 0 w → Stuck tree w e →
      Traced tree u (.error e)

/-- What a stretch is traced to holds from a step earlier on. -/
theorem Traced.of_step {s : Except IoError Stretch} (hstep : Step tree u 0 v)
    (h : Traced tree v s) : Traced tree u s := by
  cases h with
  | found hsteps => exact Traced.found (Steps.head hstep hsteps)
  | vacant hsteps hstuck => exact Traced.vacant (Steps.head hstep hsteps) hstuck
  | link hsteps => exact Traced.link (Steps.head hstep hsteps)
  | stuck hsteps hstuck => exact Traced.stuck (Steps.head hstep hsteps) hstuck

theorem traced_stretch (tree : FileTree) (place : Location) (names : List Name) :
    Traced tree ⟨place, names⟩ (tree.stretch place names) := by
  -- the place changes from name to name, so the induction is on the names at every place
  induction names generalizing place with
  | nil => exact Traced.found (Steps.refl _)
  | cons name rest ih =>
      by_cases hdir : tree.node? place = some .directory
      · by_cases hdot : name = Path.dot
        · subst hdot
          have hstep : Step tree ⟨place, Path.dot :: rest⟩ 0 ⟨place, rest⟩ := Step.stay hdir
          rw [stretch_of_step hstep]
          exact (ih place).of_step hstep
        by_cases hdotDot : name = Path.dotDot
        · subst hdotDot
          have hstep : Step tree ⟨place, Path.dotDot :: rest⟩ 0 ⟨place.dropLast, rest⟩ :=
            Step.up hdir
          rw [stretch_of_step hstep]
          exact (ih place.dropLast).of_step hstep
        by_cases hlong : nameLimit < name.length
        · rw [stretch, if_neg (by rw [hdir]; simp), if_neg hdot, if_neg hdotDot, if_pos hlong]
          exact Traced.stuck (Steps.refl _) (Stuck.tooLong hdir hdot hdotDot hlong)
        · -- the directory is searched, and what it has decides
          have hfinds : Finds tree place name (tree.node? (place ++ [name])) :=
            ⟨hdir, hdot, hdotDot, Nat.le_of_not_lt hlong, rfl⟩
          cases hnode : tree.node? (place ++ [name]) with
          | none =>
              rw [hnode] at hfinds
              rw [stretch_of_finds hfinds, hnode]
              -- only the last name may be missing without stopping the stretch
              by_cases hrest : rest = []
              · rw [if_pos hrest]
                exact Traced.vacant (Steps.refl _) (Stuck.missing hfinds)
              · rw [if_neg hrest]
                exact Traced.stuck (Steps.refl _) (Stuck.missing hfinds)
          | some node =>
              rw [hnode] at hfinds
              by_cases hlink : ∃ target, node = .link target
              · -- a link ends the stretch, whatever it leads to
                obtain ⟨target, rfl⟩ := hlink
                rw [stretch_of_finds hfinds, hnode]
                exact Traced.link (Step.follow hfinds).single
              · have hstep : Step tree ⟨place, name :: rest⟩ 0 ⟨place ++ [name], rest⟩ :=
                  Step.enter hfinds fun target htarget => hlink ⟨target, htarget⟩
                rw [stretch_of_step hstep]
                exact (ih _).of_step hstep
      · -- names are looked up in directories only
        rw [stretch, if_pos hdir]
        exact Traced.stuck (Steps.refl _) (Stuck.notDirectory hdir)

/-- What a walk ends with is where a walk ends that steps have led to. -/
theorem Ends.of_steps {links k : Nat} {answer : Except IoError Location}
    (hsteps : Steps tree u k v) (h : Ends tree links v answer) :
    Ends tree (links + k) u answer := by
  cases h with
  | arrived hk harrived =>
      exact Ends.arrived (by omega) (hsteps.trans harrived)
  | stuck hk hv hstuck => exact Ends.stuck (by omega) (hsteps.trans hv) hstuck
  | tooManyLinks hv =>
      have hall := hsteps.trans hv
      rw [show k + (links + 1) = links + k + 1 by omega] at hall
      exact Ends.tooManyLinks hall

theorem ends_walk (tree : FileTree) (links : Nat) (place : Location) (names : List Name) :
    Ends tree links ⟨place, names⟩ (arrival (tree.walk links place names)) := by
  -- the names may grow with every link, so it is the links that may be followed that decrease
  induction links using Nat.strongRecOn generalizing place names with
  | ind links ih =>
    have htraced := traced_stretch tree place names
    rw [walk]
    cases hs : tree.stretch place names with
    | error e =>
        rw [hs] at htraced
        cases htraced with
        | stuck hsteps hstuck => exact Ends.stuck (Nat.zero_le _) hsteps hstuck
    | ok s =>
        rw [hs] at htraced
        cases htraced with
        | found hsteps => exact Ends.arrived (Nat.zero_le _) hsteps
        | vacant hsteps hstuck => exact Ends.stuck (Nat.zero_le _) hsteps hstuck
        | link hsteps =>
            cases links with
            | zero => exact Ends.tooManyLinks hsteps
            | succ links => exact (ih links (Nat.lt_succ_self _) _ _).of_steps hsteps

/-- A walk ends as the recursion says, and in no other way. -/
theorem arrival_walk_eq_iff {links : Nat} {place : Location} {names : List Name}
    {answer : Except IoError Location} :
    arrival (tree.walk links place names) = answer ↔ Ends tree links ⟨place, names⟩ answer := by
  constructor
  · intro h
    rw [← h]
    exact ends_walk tree links place names
  · -- the recursion goes through the steps and comes to what stands behind them
    intro h
    cases h with
    | @arrived k place' hk hsteps =>
        have hwalk := walk_of_steps (links - k) hsteps
        rw [Nat.sub_add_cancel hk] at hwalk
        rw [hwalk, walk, stretch]
        rfl
    | @stuck k w e hk hsteps hstuck =>
        have hwalk := walk_of_steps (links - k) hsteps
        rw [Nat.sub_add_cancel hk] at hwalk
        rw [hwalk, arrival_of_stuck _ hstuck]
    | tooManyLinks hsteps => rw [walk_of_too_many hsteps links rfl, arrival]

/-! ## Paths -/

theorem resolve_eq (tree : FileTree) (p : Path) : tree.resolve p = arrival (tree.locate p) := by
  unfold resolve
  cases tree.locate p with
  | error e => rfl
  | ok spot => cases spot <;> rfl

/-- **Resolving a path gives the verdict on it, which is the only one.** -/
theorem resolve_eq_iff {p : Path} {answer : Except IoError Location} :
    tree.resolve p = answer ↔ Verdict tree p answer := by
  have hwalked : Walkable p → tree.resolve p
      = arrival (tree.walk linkLimit (startOf tree.working p.bytes) (namesOf p.bytes)) := by
    intro hp
    rw [resolve_eq, locate, if_neg hp.noZero, if_neg hp.nonempty, if_neg (Nat.not_le.mpr hp.short)]
  constructor
  · -- the checks in front of the walk, in their order
    intro h
    by_cases hzero : 0 ∈ p.bytes
    · rw [resolve_eq, locate, if_pos hzero] at h
      rw [← h]
      exact Verdict.zeroByte hzero
    by_cases hempty : p.bytes = []
    · rw [resolve_eq, locate, if_neg hzero, if_pos hempty] at h
      rw [← h]
      exact Verdict.empty hempty
    by_cases hlong : pathLimit ≤ p.bytes.length
    · rw [resolve_eq, locate, if_neg hzero, if_neg hempty, if_pos hlong] at h
      rw [← h]
      exact Verdict.tooLong hzero hlong
    · have hp : Walkable p := ⟨hzero, hempty, Nat.lt_of_not_le hlong⟩
      rw [hwalked hp] at h
      exact Verdict.walked hp (arrival_walk_eq_iff.mp h)
  · intro h
    cases h with
    | zeroByte hzero => rw [resolve_eq, locate, if_pos hzero, arrival]
    | empty hempty =>
        rw [resolve_eq, locate, if_neg (by rw [hempty]; simp), if_pos hempty, arrival]
    | tooLong hzero hlong =>
        -- so long a path is not empty, and the check for that comes first
        have hempty : p.bytes ≠ [] := by
          intro hempty
          rw [hempty] at hlong
          exact absurd hlong (by decide)
        rw [resolve_eq, locate, if_neg hzero, if_neg hempty, if_pos hlong, arrival]
    | walked hp hends => rw [hwalked hp, arrival_walk_eq_iff.mpr hends]

theorem Verdict.unique {p : Path} {answer answer' : Except IoError Location}
    (h : Verdict tree p answer) (h' : Verdict tree p answer') : answer = answer' :=
  (resolve_eq_iff.mpr h).symm.trans (resolve_eq_iff.mpr h')

/-- There is no such entry: there is no path, or a directory lacks the name that the walk has come
to, be it on the path itself or on the way of a link. -/
inductive Missing (tree : FileTree) (p : Path) : Prop where
  | empty : p.bytes = [] → Missing tree p
  | name {k : Nat} {place : Location} {name : Name} {rest : List Name} : Walkable p →
      k ≤ linkLimit → Steps tree (tree.walker p) k ⟨place, name :: rest⟩ →
      Finds tree place name none → Missing tree p

theorem verdict_noEntry_iff {p : Path} : Verdict tree p (.error .noEntry) ↔ Missing tree p := by
  constructor
  · intro h
    cases h with
    | empty hempty => exact Missing.empty hempty
    | walked hp hends =>
        cases hends with
        | stuck hk hsteps hstuck =>
            cases hstuck with
            | missing hfinds => exact Missing.name hp hk hsteps hfinds
  · intro h
    cases h with
    | empty hempty => exact Verdict.empty hempty
    | name hp hk hsteps hfinds =>
        exact Verdict.walked hp (Ends.stuck hk hsteps (Stuck.missing hfinds))

/-- The errors of looking up a path. -/
theorem Verdict.error_cases {p : Path} {e : IoError} (h : Verdict tree p (.error e)) :
    e = .noEntry ∨ e = .notDirectory ∨ e = .nameTooLong ∨ e = .tooManyLinks ∨ e = .zeroByte := by
  cases h with
  | zeroByte => simp
  | empty => simp
  | tooLong => simp
  | walked _ hends =>
      cases hends with
      | tooManyLinks => simp
      | stuck _ _ hstuck =>
          cases hstuck with
          | notDirectory => simp
          | tooLong => simp
          | missing => simp

/-! ## Loops -/

/-- A walk that has followed some links has followed any fewer before. -/
theorem Steps.exists_of_le {k : Nat} (h : Steps tree u k v) :
    ∀ j ≤ k, ∃ w, Steps tree u j w := by
  induction h with
  | refl u =>
      intro j hj
      exact ⟨u, by rw [Nat.le_zero.mp hj]; exact Steps.refl u⟩
  | @head u u' _ i k hstep _ ih =>
      intro j hj
      by_cases hij : i ≤ j
      · obtain ⟨w, hw⟩ := ih (j - i) (by omega)
        have hall := Steps.head hstep hw
        rw [Nat.add_sub_cancel' hij] at hall
        exact ⟨w, hall⟩
      · -- no step follows more than one link, so none has been followed yet
        have hzero : j = 0 := by
          have := hstep.count_le
          omega
        exact ⟨u, by rw [hzero]; exact Steps.refl u⟩

theorem Steps.iterate {k : Nat} (h : Steps tree v k v) (n : Nat) : Steps tree v (n * k) v := by
  induction n with
  | zero => rw [Nat.zero_mul]; exact Steps.refl v
  | succ n ih => rw [Nat.succ_mul]; exact ih.trans h

/-- **A path with a loop of links leads nowhere.** It is given up for its links. -/
theorem resolve_of_loop {p : Path} {i k : Nat} (hp : Walkable p)
    (hreach : Steps tree (tree.walker p) i v) (hloop : Steps tree v (k + 1) v) :
    tree.resolve p = .error .tooManyLinks := by
  have hround := hreach.trans (hloop.iterate (linkLimit + 1))
  obtain ⟨w, hw⟩ := hround.exists_of_le (linkLimit + 1) (by
    rw [Nat.mul_succ]
    omega)
  exact resolve_eq_iff.mpr (Verdict.walked hp (Ends.tooManyLinks hw))

/-! ## What a disk answers -/

/-- The path leads to the directory at this place. -/
def IsDirectory (tree : FileTree) (p : Path) (place : Location) : Prop :=
  Verdict tree p (.ok place) ∧ tree.node? place = some .directory

/-- The path leads to a regular file. -/
def IsFile (tree : FileTree) (p : Path) : Prop :=
  ∃ place content, Verdict tree p (.ok place) ∧ tree.node? place = some (.file content)

/-- The path cannot be opened as a directory, and this is why. -/
inductive NoDirectory (tree : FileTree) (p : Path) : IoError → Prop where
  | unresolved {e : IoError} : Verdict tree p (.error e) → NoDirectory tree p e
  | occupied {place : Location} : Verdict tree p (.ok place) →
      tree.node? place ≠ some .directory → NoDirectory tree p .notDirectory

theorem kind_eq_regular_iff {order : Enumeration} {p : Path} :
    (tree.disk order).kind p = .ok .regular ↔ IsFile tree p := by
  show (tree.resolve p).map tree.kindAt = .ok .regular ↔ _
  constructor
  · intro h
    cases hres : tree.resolve p with
    | error e => rw [hres] at h; exact absurd h (by simp [Except.map])
    | ok place =>
        rw [hres] at h
        have hkind : tree.kindAt place = .regular := Except.ok.inj h
        rw [kindAt] at hkind
        -- of the kinds of node, files alone are regular
        split at hkind
        · exact absurd hkind (by simp)
        · rename_i content hnode
          exact ⟨place, content, resolve_eq_iff.mp hres, hnode⟩
        · exact absurd hkind (by simp)
  · rintro ⟨place, content, hplace, hnode⟩
    rw [resolve_eq_iff.mpr hplace]
    show Except.ok (tree.kindAt place) = _
    rw [kindAt, hnode]

theorem entries_of_isDirectory {order : Enumeration} {p : Path} {place : Location}
    (h : IsDirectory tree p place) :
    (tree.disk order).entries p = .ok (order.arrange place (tree.namesIn place)) := by
  show (tree.resolve p).bind (tree.entriesAt order) = _
  rw [resolve_eq_iff.mpr h.1]
  show tree.entriesAt order place = _
  rw [entriesAt, h.2]

theorem entries_of_noDirectory {order : Enumeration} {p : Path} {e : IoError}
    (h : NoDirectory tree p e) : (tree.disk order).entries p = .error e := by
  show (tree.resolve p).bind (tree.entriesAt order) = _
  cases h with
  | unresolved herror => rw [resolve_eq_iff.mpr herror]; rfl
  | @occupied place hplace hnode =>
      rw [resolve_eq_iff.mpr hplace]
      show tree.entriesAt order place = _
      rw [entriesAt]
      split
      · rename_i hdir
        exact absurd hdir hnode
      · rfl

/-- **Every path leads to a directory or fails to for a reason.** -/
theorem isDirectory_or_noDirectory (tree : FileTree) (p : Path) :
    (∃ place, IsDirectory tree p place) ∨ ∃ e, NoDirectory tree p e := by
  have hverdict : Verdict tree p (tree.resolve p) := resolve_eq_iff.mp rfl
  cases hres : tree.resolve p with
  | error e => exact Or.inr ⟨e, NoDirectory.unresolved (hres ▸ hverdict)⟩
  | ok place =>
      rw [hres] at hverdict
      by_cases hdir : tree.node? place = some .directory
      · exact Or.inl ⟨place, hverdict, hdir⟩
      · exact Or.inr ⟨_, NoDirectory.occupied hverdict hdir⟩

theorem noDirectory_noEntry_iff {p : Path} : NoDirectory tree p .noEntry ↔ Missing tree p := by
  rw [← verdict_noEntry_iff]
  constructor
  · intro h
    -- what stands in a directory's place is another error
    cases h with
    | unresolved herror => exact herror
  · exact NoDirectory.unresolved

theorem NoDirectory.error_cases {p : Path} {e : IoError} (h : NoDirectory tree p e) :
    e = .noEntry ∨ e = .notDirectory ∨ e = .nameTooLong ∨ e = .tooManyLinks ∨ e = .zeroByte := by
  cases h with
  | unresolved herror => exact herror.error_cases
  | occupied => exact Or.inr (Or.inl rfl)

end DecoderKit.FileTree
