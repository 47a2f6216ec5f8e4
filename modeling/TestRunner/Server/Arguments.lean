import TestRunner.Recorder.Arguments

/-! The command line of the server, and the names that it compiles its keymap from. -/
namespace TestRunner.Server

open Getopt Recorder

/-- The option string "hl:L:V:M:" and `long_options`. -/
def options : Table UInt8 where
  dash := letter '-'
  equals := letter '='
  short := [(letter 'h', .no), (letter 'l', .required), (letter 'L', .required),
    (letter 'V', .required), (letter 'M', .required)]
  long := [⟨word ['h', 'e', 'l', 'p'], .no, letter 'h'⟩,
    ⟨word ['x', 'k', 'b', '-', 'l', 'a', 'y', 'o', 'u', 't'], .required, letter 'L'⟩,
    ⟨word ['x', 'k', 'b', '-', 'v', 'a', 'r', 'i', 'a', 'n', 't'], .required, letter 'V'⟩,
    ⟨word ['x', 'k', 'b', '-', 'm', 'o', 'd', 'e', 'l'], .required, letter 'M'⟩]
  undeclared := by decide

structure XkbConfig where
  rules : List UInt8
  model : List UInt8
  layout : List UInt8
  variant : List UInt8
  options : List UInt8
  deriving DecidableEq, Repr

/-- The local variables of `main()`. -/
structure Args where
  listenAddr : List UInt8
  xkbCfg : XkbConfig
  deriving DecidableEq, Repr

def argumentDefaults : Args where
  listenAddr := word ['*', ':', '4', '0', '0', '4']
  xkbCfg := ⟨[], [], [], [], []⟩

/-- The `switch` of `main()`. Every setting makes a text of its argument. -/
def Args.switch (args : Args) : Token UInt8 → Except Refused Args
  | .unknown => .error (.exit false)
  | .option ch optarg =>
    if ch = letter 'l' then
      match optarg with
      | some text => .ok { args with listenAddr := text }
      | none => .error .nullPointer
    else if ch = letter 'L' then
      match optarg with
      | some text => .ok { args with xkbCfg.layout := text }
      | none => .error .nullPointer
    else if ch = letter 'V' then
      match optarg with
      | some text => .ok { args with xkbCfg.variant := text }
      | none => .error .nullPointer
    else if ch = letter 'M' then
      match optarg with
      | some text => .ok { args with xkbCfg.model := text }
      | none => .error .nullPointer
    else .error (.exit (ch = letter 'h'))

structure RuleNames where
  rules : Option (List UInt8)
  model : Option (List UInt8)
  layout : Option (List UInt8)
  variant : Option (List UInt8)
  options : Option (List UInt8)
  deriving DecidableEq, Repr

def envOr (val : List UInt8) (env : Option (List UInt8)) : Option (List UInt8) :=
  if val ≠ [] then some val else env

/-- The environment, by the names that begin with XKB_DEFAULT, and the result of `pipe()`. -/
structure Environment where
  rules : Option (List UInt8)
  model : Option (List UInt8)
  layout : Option (List UInt8)
  variant : Option (List UInt8)
  options : Option (List UInt8)
  posixlyCorrect : Bool
  pipe : Int

/-- What `setup_xkb` gives to the compiler of keymaps. -/
def ruleNames (cfg : XkbConfig) (env : Environment) : RuleNames where
  rules := envOr cfg.rules env.rules
  model := envOr cfg.model env.model
  layout := envOr cfg.layout env.layout
  variant := envOr cfg.variant env.variant
  options := envOr cfg.options env.options

/-- The address that `main()` listens on, and the names of the keymap. -/
def launch (env : Environment) (words : List (List UInt8)) : Except Refused (List UInt8 × RuleNames) := do
  let args ← (options.getoptLong env.posixlyCorrect words).foldlM Args.switch argumentDefaults
  if env.pipe < 0 then .error (.exit false)
  else .ok (args.listenAddr, ruleNames args.xkbCfg env)

/-- An option with its text that sets something. -/
def Setting (o : Opt UInt8) : Prop :=
  o.2 ≠ none ∧ (o.1 = letter 'l' ∨ o.1 = letter 'L' ∨ o.1 = letter 'V' ∨ o.1 = letter 'M')

/-- The text of the last option of a kind. -/
def asked (ch : Char) (os : List (Opt UInt8)) : Option (List UInt8) :=
  (lastOf (letter ch) os).map fun a => a.getD []

inductive Switched (args : Args) : Opt UInt8 → Args → Prop where
  | listen (text : List UInt8) : Switched args (letter 'l', some text) { args with listenAddr := text }
  | layout (text : List UInt8) : Switched args (letter 'L', some text) { args with xkbCfg.layout := text }
  | variant (text : List UInt8) : Switched args (letter 'V', some text) { args with xkbCfg.variant := text }
  | model (text : List UInt8) : Switched args (letter 'M', some text) { args with xkbCfg.model := text }

theorem switched {args args' : Args} {o : Opt UInt8} (ok : args.switch o.token = .ok args') :
    Switched args o args' := by
  obtain ⟨ch, optarg⟩ := o
  cases optarg with
  | none =>
    simp only [Opt.token, Args.switch] at ok
    split_ifs at ok
  | some text =>
    simp only [Opt.token, Args.switch] at ok
    split_ifs at ok with l L V M
    · obtain rfl := l
      obtain rfl := Except.ok.inj ok
      exact .listen text
    · obtain rfl := L
      obtain rfl := Except.ok.inj ok
      exact .layout text
    · obtain rfl := V
      obtain rfl := Except.ok.inj ok
      exact .variant text
    · obtain rfl := M
      obtain rfl := Except.ok.inj ok
      exact .model text

theorem setting_iff (args : Args) (o : Opt UInt8) :
    (∃ args', args.switch o.token = .ok args') ↔ Setting o := by
  constructor
  · rintro ⟨args', ok⟩
    cases switched ok <;> simp [Setting]
  · obtain ⟨ch, optarg⟩ := o
    rintro ⟨given, kind⟩
    obtain ⟨text, rfl⟩ := Option.ne_none_iff_exists'.mp given
    rcases kind with rfl | rfl | rfl | rfl <;> exact ⟨_, rfl⟩

def Args.asked (args : Args) (os : List (Opt UInt8)) : Args where
  listenAddr := (Server.asked 'l' os).getD args.listenAddr
  xkbCfg :=
    { args.xkbCfg with
      layout := (Server.asked 'L' os).getD args.xkbCfg.layout
      variant := (Server.asked 'V' os).getD args.xkbCfg.variant
      model := (Server.asked 'M' os).getD args.xkbCfg.model }

theorem asked_of_switch (args args' : Args) (os : List (Opt UInt8))
    (ran : (os.map Opt.token).foldlM Args.switch args = .ok args') : args' = args.asked os := by
  have listen := foldlM_field Args.listenAddr (fun a => a.getD []) (letter 'l')
    (fun s o s' ok => by cases switched ok <;> rfl) ran
  have layout := foldlM_field (fun args : Args => args.xkbCfg.layout) (fun a => a.getD []) (letter 'L')
    (fun s o s' ok => by cases switched ok <;> rfl) ran
  have variant := foldlM_field (fun args : Args => args.xkbCfg.variant) (fun a => a.getD []) (letter 'V')
    (fun s o s' ok => by cases switched ok <;> rfl) ran
  have model := foldlM_field (fun args : Args => args.xkbCfg.model) (fun a => a.getD []) (letter 'M')
    (fun s o s' ok => by cases switched ok <;> rfl) ran
  have others := foldlM_kept (fun args : Args => (args.xkbCfg.rules, args.xkbCfg.options))
    (fun s x s' ok => by
      cases x with
      | unknown => cases ok
      | option ch optarg => cases switched (o := (ch, optarg)) ok <;> rfl) ran
  obtain ⟨listenAddr, cfg⟩ := args'
  cases cfg
  simp_all [Args.asked, Server.asked]

/-- A text that is given and not empty stands before the environment. -/
def chosen (ch : Char) (os : List (Opt UInt8)) (env : Option (List UInt8)) : Option (List UInt8) :=
  ((asked ch os).filter (· ≠ [])).or env

theorem envOr_asked (ch : Char) (os : List (Opt UInt8)) (env : Option (List UInt8)) :
    envOr ((asked ch os).getD []) env = chosen ch os env := by
  unfold chosen envOr
  cases asked ch os with
  | none => rfl
  | some text => by_cases none : text = [] <;> simp [Option.filter, none]

theorem ruleNames_asked (os : List (Opt UInt8)) (env : Environment) :
    ruleNames (argumentDefaults.asked os).xkbCfg env =
      ⟨env.rules, chosen 'M' os env.model, chosen 'L' os env.layout, chosen 'V' os env.variant,
        env.options⟩ := by
  simp only [← envOr_asked]
  rfl

theorem parsed_iff {posixlyCorrect : Bool} {words : List (List UInt8)} {args : Args} :
    (options.getoptLong posixlyCorrect words).foldlM Args.switch argumentDefaults = .ok args ↔
      ∃ os, CommandLine options posixlyCorrect os words ∧ (∀ o ∈ os, Setting o) ∧
        args = argumentDefaults.asked os :=
  have refuses (args : Args) : ∃ e, args.switch .unknown = .error e := ⟨_, rfl⟩
  loop_ok_iff refuses setting_iff asked_of_switch

theorem switch_null {args : Args} {x : Token UInt8} (null : args.switch x = .error .nullPointer) :
    ∃ ch, x = .option ch none ∧ options.short.lookup ch = some .required := by
  cases x with
  | unknown => cases null
  | option ch optarg =>
    cases optarg with
    | some text =>
      simp only [Args.switch] at null
      split_ifs at null
      cases null
    | none =>
      simp only [Args.switch] at null
      split_ifs at null with l L V M
      · exact ⟨ch, rfl, l ▸ by decide⟩
      · exact ⟨ch, rfl, L ▸ by decide⟩
      · exact ⟨ch, rfl, V ▸ by decide⟩
      · exact ⟨ch, rfl, M ▸ by decide⟩
      · cases null

/-- No command line makes the server use a null pointer. -/
theorem server_never_null (env : Environment) (words : List (List UInt8)) :
    launch env words ≠ .error .nullPointer := by
  intro null
  unfold launch at null
  cases parsed : (options.getoptLong env.posixlyCorrect words).foldlM Args.switch argumentDefaults with
  | ok args =>
    simp only [parsed, bind, Except.bind] at null
    split_ifs at null
    cases null
  | error e =>
    obtain rfl : e = .nullPointer := by simpa [parsed, bind, Except.bind] using null
    obtain ⟨x, inside, args, refused⟩ := foldlM_error parsed
    obtain ⟨ch, rfl, declared⟩ := switch_null refused
    have all : ∀ l ∈ options.long, l.hasArg = .no → options.short.lookup l.val = some .no := by decide
    rcases bare_of_found inside with flag | ⟨name, l, -, -, named, bare, rfl⟩
    · simp [declared] at flag
    · simp [all l (longOption_of_some named).1 bare] at declared

end TestRunner.Server
