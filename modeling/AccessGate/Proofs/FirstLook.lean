/-
# The first look at a command line

The configuration file is found before the commands of the backend are known, by a look
at the command line that overlooks faults. Where the command line is accepted later on
there are no faults to overlook, so up to the command the look sees what the full reading
sees. What it makes of the command is another matter: behind a built-in command it goes
on, and a command that it does not know hides what is behind it.

* `CommandLine.Passes.of_scan` : what a scan gets past before it stops;
* `CommandLine.Passes.leniently`, `CommandLine.Passes.of_subset` : it gets past the same if
  it overlooks faults, and if it knows fewer commands;
* `CommandLine.configPath?_of_builtin`, `CommandLine.configPath?_of_unknown` : what the
  first look finds behind a command;
* `Host.configFile_of_parse` : the file in force is the one that is asked for, unless it is
  asked for behind a command of the backend.
-/
import AccessGate.Host
import AccessGate.Proofs.GrantTable

namespace AccessGate.CommandLine

/-! ## One argument -/

namespace State

/-- What a word that is no subcommand does to a scan, with its fault if it has one: it is
the value that an option waits for, or an operand, or it has no place. -/
def takeWord (g : Grammar) (s : State) (a : String) : Option (State × Option UsageFault) :=
  if !s.trailing && s.awaits then
    some ({ s with pending := s.pending.map (·.1, some a), awaits := false }, none)
  else if g.takesOperands then
    some (match s.settle with
      | (s, some fault) => (s, some fault)
      | (s, none) => ({ s with operands := s.operands ++ [a] }, none))
  else none

/-- What an argument that is no subcommand does to a scan. -/
def take (g : Grammar) (s : State) (a : String) : Option (State × Option UsageFault) :=
  match s.trailing, Argument.ofText a with
  | true, _ => s.takeWord g a
  | false, .endOfOptions => some ({ s with trailing := true }, none)
  | false, .long name value => some (s.takeLong g name value)
  | false, .letters first more => some (s.takeLetter g first more)
  | false, .word _ => s.takeWord g a

end State

/-- A scan takes one argument after another until it comes to a subcommand. -/
theorem scan_cons (g : Grammar) (s : State) (a : String) (rest : List String) :
    scan g s (a :: rest) =
      if !s.trailing && !s.awaits && g.commands.contains a then (s, .command a rest)
      else
        match s.take g a with
        | none => (s, .stray a)
        | some taken => proceed (scan g · rest) taken := by
  have hword :
      (if !s.trailing && s.awaits then
        scan g { s with pending := s.pending.map (·.1, some a), awaits := false } rest
      else if g.takesOperands then
        proceed (fun s => scan g { s with operands := s.operands ++ [a] } rest) s.settle
      else (s, .stray a)) =
      match s.takeWord g a with
      | none => (s, .stray a)
      | some taken => proceed (scan g · rest) taken := by
    rw [State.takeWord]
    split
    · rfl
    · split
      · cases s.settle with
        | mk s fault => cases fault <;> rfl
      · rfl
  rw [scan, State.take]
  congr 1
  -- behind two dashes every argument is a word, in front of them only what has no dash is
  cases htrailing : s.trailing with
  | true => rw [← hword, htrailing]
  | false =>
      cases Argument.ofText a with
      | endOfOptions => rfl
      | long name value => rfl
      | letters first more => rfl
      | word w => rw [← hword, htrailing]

/-! ## Overlooking faults -/

namespace State

/-- The same state of a scan that overlooks missing values. -/
def leniently (s : State) : State :=
  { s with lenient := true }

variable {g : Grammar} {s s' : State}

theorem judge_leniently {o : OptionSpec} {value : Option String}
    (h : s.judge o value = (s', none)) : s.leniently.judge o value = (s'.leniently, none) := by
  rw [judge] at h
  split at h
  · cases h
  · split at h
    · cases h
    · next hrepeated =>
      cases hrefusal : value.bind o.refusal with
      | some fault =>
          rw [hrefusal] at h
          cases h
      | none =>
          rw [hrefusal] at h
          cases h
          simp [judge, leniently, hrefusal, hrepeated]

theorem settle_leniently (h : s.settle = (s', none)) :
    s.leniently.settle = (s'.leniently, none) := by
  cases hpending : s.pending with
  | none =>
      rw [settle, hpending] at h
      cases h
      simp [settle, leniently, hpending]
  | some p =>
      have hjudge : ({ s with pending := none, awaits := false } : State).judge p.1 p.2 =
          (s', none) := by
        simpa [settle, hpending] using h
      have hlenient := judge_leniently hjudge
      simpa [settle, leniently, hpending] using hlenient

theorem takeOption_leniently {o : OptionSpec} {value : Option String}
    (h : s.takeOption o value = (s', none)) :
    s.leniently.takeOption o value = (s'.leniently, none) := by
  cases hsettle : s.settle with
  | mk settled fault =>
      cases fault with
      | some fault => simp [takeOption, hsettle] at h
      | none =>
          rw [takeOption, hsettle] at h
          rw [takeOption, settle_leniently hsettle]
          cases value with
          | some v => exact judge_leniently h
          | none =>
              cases h
              rfl

theorem takeFlag_ne_none (s s' : State) (flag : UsageFault) : s.takeFlag flag ≠ (s', none) := by
  rw [takeFlag]
  cases s.settle with
  | mk settled fault => cases fault <;> simp

theorem takeLong_leniently {name : String} {value : Option String}
    (h : s.takeLong g name value = (s', none)) :
    s.leniently.takeLong g name value = (s'.leniently, none) := by
  rw [takeLong] at h ⊢
  cases hoption : g.options.find? (·.name = name) with
  | some o =>
      rw [hoption] at h
      exact takeOption_leniently h
  | none =>
      -- what is no option is a flag or a fault, and both end the scan
      rw [hoption] at h
      dsimp only at h
      split at h
      · cases h
      · cases h
      · exact absurd h (takeFlag_ne_none s s' _)

theorem takeLetter_leniently {first : Char} {rest : List Char}
    (h : s.takeLetter g first rest = (s', none)) :
    s.leniently.takeLetter g first rest = (s'.leniently, none) := by
  unfold takeLetter at h ⊢
  cases hoption : g.options.find? (·.letter = some first) with
  | some o =>
      rw [hoption] at h
      exact takeOption_leniently h
  | none =>
      rw [hoption] at h
      dsimp only at h
      split at h
      · exact absurd h (takeFlag_ne_none s s' _)
      · split at h
        · exact absurd h (takeFlag_ne_none s s' _)
        · cases h

theorem takeWord_leniently {a : String} (h : s.takeWord g a = some (s', none)) :
    s.leniently.takeWord g a = some (s'.leniently, none) := by
  rw [takeWord] at h ⊢
  split at h
  · next hawaits =>
    cases h
    simp [leniently, hawaits]
  · next hawaits =>
    have hawaits' : (!s.leniently.trailing && s.leniently.awaits) = false := by
      simpa [leniently] using hawaits
    split at h
    · next hoperands =>
      cases hsettle : s.settle with
      | mk settled fault =>
          cases fault with
          | some fault => simp [hsettle] at h
          | none =>
              rw [hsettle] at h
              cases h
              simp [hawaits', hoperands, settle_leniently hsettle]
              rfl
    · cases h

/-- What is taken without a fault is taken leniently too. -/
theorem take_leniently {a : String} (h : s.take g a = some (s', none)) :
    s.leniently.take g a = some (s'.leniently, none) := by
  have htrailing : s.leniently.trailing = s.trailing := rfl
  rw [take, htrailing]
  rw [take] at h
  cases ht : s.trailing with
  | true =>
      rw [ht] at h
      exact takeWord_leniently h
  | false =>
      rw [ht] at h
      cases hargument : Argument.ofText a with
      | endOfOptions =>
          rw [hargument] at h
          cases h
          rfl
      | long name value =>
          rw [hargument] at h
          exact congrArg some (takeLong_leniently (Option.some.inj h))
      | letters first more =>
          rw [hargument] at h
          exact congrArg some (takeLetter_leniently (Option.some.inj h))
      | word w =>
          rw [hargument] at h
          exact takeWord_leniently h

end State

/-! ## Scans that go on -/

/-- A scan gets past some arguments, without a fault and without coming to a subcommand. -/
inductive Passes (g : Grammar) : State → List String → State → Prop where
  | nil (s : State) : Passes g s [] s
  | cons {s s' s'' : State} {a : String} {rest : List String} :
      (!s.trailing && !s.awaits && g.commands.contains a) = false →
      s.take g a = some (s', none) → Passes g s' rest s'' → Passes g s (a :: rest) s''

/-- What a scan stops at: the end, a subcommand, or a word that has no place. -/
inductive Halts (g : Grammar) (s : State) : List String → Stop → Prop where
  | atEnd : Halts g s [] .atEnd
  | command {name : String} {rest : List String} :
      name ∈ g.commands → s.trailing = false → s.awaits = false →
      Halts g s (name :: rest) (.command name rest)
  | stray {word : String} {rest : List String} : Halts g s (word :: rest) (.stray word)

namespace Passes

variable {g : Grammar} {s s' : State} {front : List String}

/-- A scan that gets past some arguments goes on with what is behind them. -/
theorem scan_append (h : Passes g s front s') (behind : List String) :
    scan g s (front ++ behind) = scan g s' behind := by
  induction h with
  | nil s => rfl
  | cons hcommand htake _ ih =>
      rw [List.cons_append, scan_cons, hcommand, htake]
      exact ih

/-- **A scan that stops without a fault** gets past what is in front of where it stops. -/
theorem of_scan {args : List String} {stop : Stop} (h : scan g s args = (s', stop))
    (hstop : ∀ fault, stop ≠ .fault fault) :
    ∃ front behind, args = front ++ behind ∧ Passes g s front s' ∧ Halts g s' behind stop := by
  induction args generalizing s with
  | nil =>
      cases h
      exact ⟨[], [], rfl, .nil _, .atEnd⟩
  | cons a rest ih =>
      rw [scan_cons] at h
      split at h
      · next hcommand =>
        cases h
        simp only [Bool.and_eq_true, Bool.not_eq_eq_eq_not, Bool.not_true,
          List.contains_iff_mem] at hcommand
        exact ⟨[], a :: rest, rfl, .nil _, .command hcommand.2 hcommand.1.1 hcommand.1.2⟩
      · next hcommand =>
        cases htake : s.take g a with
        | none =>
            rw [htake] at h
            cases h
            exact ⟨[], a :: rest, rfl, .nil _, .stray⟩
        | some taken =>
            obtain ⟨s₁, fault⟩ := taken
            rw [htake] at h
            cases fault with
            | some fault =>
                cases h
                exact absurd rfl (hstop fault)
            | none =>
                obtain ⟨front, behind, rfl, hfront, hhalts⟩ := ih h
                have hgoes : (!s.trailing && !s.awaits && g.commands.contains a) = false := by
                  simpa using hcommand
                exact ⟨a :: front, behind, rfl, .cons hgoes htake hfront, hhalts⟩

/-- A scan that stops at a subcommand is not waiting for a value there. -/
theorem of_command {args : List String} {name : String} {rest : List String}
    (h : scan g s args = (s', .command name rest)) :
    ∃ front, args = front ++ name :: rest ∧ Passes g s front s' ∧
      name ∈ g.commands ∧ s'.trailing = false ∧ s'.awaits = false := by
  obtain ⟨front, behind, rfl, hfront, hhalts⟩ := of_scan h (by simp)
  cases hhalts with
  | command hname htrailing hawaits => exact ⟨front, rfl, hfront, hname, htrailing, hawaits⟩

/-- It gets past the same arguments leniently. -/
theorem leniently (h : Passes g s front s') : Passes g s.leniently front s'.leniently := by
  induction h with
  | nil s => exact .nil s.leniently
  | cons hcommand htake _ ih => exact .cons hcommand (State.take_leniently htake) ih

/-- It gets past the same arguments if it knows fewer subcommands. -/
theorem of_subset (h : Passes g s front s') {commands : List String}
    (hsub : commands ⊆ g.commands) : Passes { g with commands } s front s' := by
  induction h with
  | nil s => exact .nil s
  | @cons s _ _ a _ hcommand htake _ ih =>
      refine .cons ?_ htake ih
      rw [Bool.and_eq_false_iff] at hcommand ⊢
      refine hcommand.imp_right fun hunknown => ?_
      rw [← Bool.not_eq_true, List.contains_iff_mem] at hunknown ⊢
      exact fun hknown => hunknown (hsub hknown)

end Passes

/-! ## What an accepted command line consists of -/

/-- A level of a command line that is accepted is one that a scan gets past, with a value
for its last option. -/
theorem passes_of_complete {g : Grammar} {args : List String} {inner : State}
    (h : complete g args = .ok inner) :
    ∃ s, Passes g {} args s ∧ s.settle = (inner, none) := by
  rw [complete] at h
  split at h
  · cases h
  · cases h
  · cases h
  · next s hscan =>
    split at h
    · cases h
    · next hsettle =>
      split at h
      · cases h
      · cases h
        obtain ⟨front, behind, rfl, hfront, hhalts⟩ := Passes.of_scan hscan (by simp)
        cases hhalts
        exact ⟨s, by simpa using hfront, hsettle⟩

/-- The parts of a command line that is accepted. -/
theorem parts_of_parse {added : List AddedCommand} {args : List String} {line : CommandLine}
    (h : parse added args = .ok line) :
    ∃ name behind s outer inner,
      scan (topGrammar added) {} args = (s, .command name behind) ∧ name ≠ helpCommand ∧
        s.settle = (outer, none) ∧ complete (commandGrammar added name) behind = .ok inner ∧
          commandOf added name inner = .ok line.command ∧
            line.config = innermostConfig outer inner := by
  rw [parse] at h
  split at h
  · cases h
  · split at h <;> cases h
  · split at h
    · cases h
    · split at h <;> cases h
  · next s name behind hscan =>
    split at h
    · cases h
    · next hhelp =>
      obtain ⟨inner, hinner, h⟩ := bind_eq_ok.mp h
      split at h
      · cases h
      · next outer hsettle =>
        obtain ⟨command, hcommand, h⟩ := bind_eq_ok.mp h
        cases h
        exact ⟨name, behind, s, outer, inner, hscan, hhelp, hsettle, hinner, hcommand, rfl⟩

/-! ## What the first look finds -/

section FirstLook

variable {added : List AddedCommand} {front behind : List String} {name : String}
  {s outer inner : State}

@[simp]
theorem innermostConfig_leniently_left :
    innermostConfig outer.leniently inner = innermostConfig outer inner :=
  rfl

@[simp]
theorem innermostConfig_leniently_right :
    innermostConfig outer inner.leniently = innermostConfig outer inner :=
  rfl

/-- The first look gets past what is in front of a command. -/
theorem scan_first (h : Passes (topGrammar added) {} front s) (behind : List String) :
    scan (topGrammar []) { lenient := true } (front ++ behind) =
      scan (topGrammar []) s.leniently behind := by
  have hsub : (topGrammar []).commands ⊆ (topGrammar added).commands := by
    intro c hc
    simp only [topGrammar, List.map_nil, List.append_nil, List.mem_append] at hc ⊢
    exact hc.imp_left .inl
  exact (h.of_subset hsub).leniently.scan_append behind

/-- In front of a command it finds what the full reading finds there. -/
theorem configPath?_front (h : Passes (topGrammar added) {} front s)
    (hsettle : s.settle = (outer, none)) : configPath? front = innermostConfig outer {} := by
  have hscan := scan_first h []
  rw [List.append_nil, scan] at hscan
  simp [configPath?, overlook, hscan, State.settle_leniently hsettle]

/-- Behind a command that it does not know it finds nothing: the name of the command is a
word that has no place. -/
theorem configPath?_of_unknown (h : Passes (topGrammar added) {} front s)
    (htrailing : s.trailing = false) (hawaits : s.awaits = false)
    (hname : name ∉ (topGrammar []).commands) (hword : Argument.ofText name = .word name)
    (behind : List String) : configPath? (front ++ name :: behind) = configPath? front := by
  have hstray : scan (topGrammar []) s.leniently (name :: behind) =
      (s.leniently, .stray name) := by
    have hcommand : (topGrammar []).commands.contains name = false := by
      simpa using hname
    have htake : s.leniently.take (topGrammar []) name = none := by
      simp [State.take, State.takeWord, State.leniently, htrailing, hawaits, hword, topGrammar]
    rw [scan_cons, hcommand, Bool.and_false, htake]
    rfl
  have hscan := scan_first h (name :: behind)
  have hfront := scan_first h []
  rw [hstray] at hscan
  rw [List.append_nil, scan] at hfront
  simp [configPath?, overlook, hscan, hfront]

/-- Behind a built-in command it finds what the full reading finds there. -/
theorem configPath?_of_builtin (h : Passes (topGrammar added) {} front s)
    (hsettle : s.settle = (outer, none)) (htrailing : s.trailing = false)
    (hawaits : s.awaits = false) (hname : name ∈ builtinCommands)
    (hinner : complete (commandGrammar added name) behind = .ok inner) :
    configPath? (front ++ name :: behind) = innermostConfig outer inner := by
  have hcommand : scan (topGrammar []) s.leniently (name :: behind) =
      (s.leniently, .command name behind) := by
    have hknown : (topGrammar []).commands.contains name = true := by
      simp [topGrammar, hname]
    have hstate : (!s.leniently.trailing && !s.leniently.awaits) = true := by
      simp [State.leniently, htrailing, hawaits]
    rw [scan_cons, hknown, hstate]
    rfl
  have hscan := scan_first h (name :: behind)
  rw [hcommand] at hscan
  have hhelp : name ≠ helpCommand := by
    rintro rfl
    revert hname
    decide
  have hgrammar : commandGrammar [] name = commandGrammar added name := by
    simp only [builtinCommands, List.mem_cons, List.not_mem_nil, or_false] at hname
    rcases hname with rfl | rfl | rfl | rfl <;> rfl
  obtain ⟨s', hpasses, hsettle'⟩ := passes_of_complete hinner
  have hbehind : scan (commandGrammar [] name) { lenient := true } behind =
      (s'.leniently, .atEnd) := by
    have hall := hpasses.leniently.scan_append []
    rw [List.append_nil, scan] at hall
    rw [hgrammar]
    exact hall
  simp [configPath?, overlook, hscan, hhelp, hbehind, State.settle_leniently hsettle,
    State.settle_leniently hsettle']

end FirstLook

/-! ## The file in force -/

/-- The file that is asked for, or the default, and whether it has to be there. -/
def fileOf (config : Option String) : String × Bool :=
  match config with
  | some path => (path, true)
  | none => (defaultConfigPath, false)

/-- The file that a command line asks for, and whether it has to be there. -/
def file (line : CommandLine) : String × Bool :=
  fileOf line.config

/-- A built-in command is not one that a backend has added. -/
theorem ne_added_of_builtin {added : List AddedCommand} {name other : String} {s : State}
    {command : Command} {arguments : Arguments} (hname : name ∈ builtinCommands)
    (h : commandOf added name s = .ok command) : command ≠ .added other arguments := by
  rintro rfl
  simp only [builtinCommands, List.mem_cons, List.not_mem_nil, or_false] at hname
  rcases hname with rfl | rfl | rfl | rfl
  · cases h
  · simp only [commandOf] at h
    cases hresource : s.value? "resource" with
    | none =>
        rw [hresource] at h
        cases h
    | some v =>
        rw [hresource] at h
        obtain ⟨resource, -, h⟩ := bind_eq_ok.mp h
        obtain ⟨part, -, h⟩ := bind_eq_ok.mp h
        cases h
  · obtain ⟨methods, -, h⟩ := bind_eq_ok.mp h
    cases h
  · cases h

/-- Any other command is. -/
theorem commandOf_of_not_builtin (added : List AddedCommand) {name : String} (s : State)
    (hname : name ∉ builtinCommands) :
    ∃ arguments, commandOf added name s = .ok (.added name arguments) := by
  simp only [builtinCommands, List.mem_cons, List.not_mem_nil, or_false, not_or] at hname
  rw [commandOf]
  · exact ⟨_, rfl⟩
  · exact hname.1
  · exact hname.2.1
  · exact hname.2.2.1
  · exact hname.2.2.2

end AccessGate.CommandLine

namespace AccessGate.Host

open CommandLine

/-- The file in force is the one that the first look finds. -/
theorem configFile_eq (args : List String) : configFile args = fileOf (configPath? args) := by
  rw [configFile]
  cases configPath? args <;> rfl

/-- **The file in force is the one that is asked for**, unless it is asked for behind a
command of the backend: there the file in force is the one that is asked for in front of
the command. -/
theorem configFile_of_parse {added : List AddedCommand} {args : List String}
    {line : CommandLine} (h : parse added args = .ok line)
    (hadded : ∀ c ∈ added, Argument.ofText c.name = .word c.name) :
    match line.command with
    | .added name _ =>
        ∃ front behind inner, args = front ++ name :: behind ∧
          complete (commandGrammar added name) behind = .ok inner ∧
          configFile args = configFile front ∧
          match inner.given.lookup configOption.name with
          | none => configFile args = line.file
          | some given => line.config = given
    | _ => configFile args = line.file := by
  obtain ⟨name, behind, s, outer, inner, hscan, hhelp, hsettle, hinner, hcommand, hconfig⟩ :=
    parts_of_parse h
  obtain ⟨front, rfl, hfront, hname, htrailing, hawaits⟩ := Passes.of_command hscan
  by_cases hbuiltin : name ∈ builtinCommands
  · -- both readings know the command and go on behind it
    have hpath := configPath?_of_builtin hfront hsettle htrailing hawaits hbuiltin hinner
    have hfile : configFile (front ++ name :: behind) = line.file := by
      rw [configFile_eq, hpath, file, hconfig]
    split
    · next hadded => exact absurd hadded (ne_added_of_builtin hbuiltin hcommand)
    · exact hfile
  · -- the first look takes the command for a stray word, so what is behind it is lost
    have hunknown : name ∉ (topGrammar []).commands := by
      simp [topGrammar, hbuiltin, hhelp]
    have hword : Argument.ofText name = .word name := by
      have hmem : name ∈ added.map AddedCommand.name := by
        simpa [topGrammar, hbuiltin, hhelp] using hname
      obtain ⟨c, hc, rfl⟩ := List.mem_map.mp hmem
      exact hadded c hc
    have hpath := configPath?_of_unknown hfront htrailing hawaits hunknown hword behind
    have hfile : configFile (front ++ name :: behind) = configFile front := by
      rw [configFile_eq, hpath, configFile_eq]
    obtain ⟨arguments, hadds⟩ := commandOf_of_not_builtin added inner hbuiltin
    rw [hadds] at hcommand
    rw [← Except.ok.inj hcommand]
    refine ⟨front, behind, inner, rfl, hinner, hfile, ?_⟩
    cases hgiven : inner.given.lookup configOption.name with
    | none =>
        have hsame : innermostConfig outer inner = innermostConfig outer {} := by
          simp [innermostConfig, hgiven]
        rw [hfile, configFile_eq, configPath?_front hfront hsettle, ← hsame, file, hconfig]
    | some given => rw [hconfig, innermostConfig, hgiven]

/-- Two files are asked for around `list-grants`. The full reading reports the one behind
it, and the one in front of it is in force. -/
theorem configFile_of_parse_two_files :
    let args := ["-c", "a.yaml", "list-grants", "--subject", "alice", "--config", "b.yaml"]
    let line : CommandLine := ⟨some "b.yaml", .added "list-grants" [("subject", "alice")]⟩
    parse [GrantTable.listGrants] args = .ok line ∧
      (∀ c ∈ [GrantTable.listGrants], Argument.ofText c.name = .word c.name) ∧
      line.file = ("b.yaml", true) ∧ configFile args = ("a.yaml", true) ∧
      ∃ front behind, args = front ++ "list-grants" :: behind ∧
        configFile args = configFile front := by
  intro args line
  have hparse : parse [GrantTable.listGrants] args = .ok line := by rfl
  have hadded : ∀ c ∈ [GrantTable.listGrants], Argument.ofText c.name = .word c.name := by decide
  obtain ⟨front, behind, -, hargs, -, hfront, -⟩ := configFile_of_parse hparse hadded
  exact ⟨hparse, hadded, rfl, rfl, front, behind, hargs, hfront⟩

/-- Behind `list-grants` a file is asked for that is not looked at: the default is in force,
also where the file that is asked for is there and says otherwise. -/
theorem configFile_behind_listGrants :
    let args := ["list-grants", "--subject", "alice", "--config", "other.yaml"]
    let lookup : String → FileState := fun path =>
      if path = "other.yaml" then
        .text "static_auth_plugin: \x7bmode: static_grants, subjects: [\x7bname: alice\x7d]\x7d"
      else .absent
    (∃ line, parse [GrantTable.listGrants] args = .ok line ∧ line.file = ("other.yaml", true)) ∧
      configFile args = (defaultConfigPath, false) ∧
      run lookup args = { exitCode := 0, printed :=
        "mode allow_all: every signed-in subject, including 'alice', is allowed everything\n" } := by
  intro args lookup
  refine ⟨⟨⟨some "other.yaml", .added "list-grants" [("subject", "alice")]⟩, ?_, ?_⟩, ?_, ?_⟩
  · rfl
  · rfl
  · rfl
  · rfl

end AccessGate.Host
