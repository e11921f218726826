import ConfigTokens.Handler.Call
/-!
# The grammar of tokens for variables

A token asks for a filter exactly if it is a name, a bar and the code of the filter. The last bar decides,
since no code holds one, so that a token has at most one such reading: bars and exclamation marks before
it belong to the name. The handler looks up the name that was read and converts what it finds; any other
token is a name as a whole.
-/

namespace ConfigTokens

namespace EnvFilter

theorem ofCode?_eq_some_iff
    {text : String}
    {filter : EnvFilter} :
    ofCode? text = some filter ↔ text = filter.code := by
  constructor
  · intro known
    unfold ofCode? at known
    split at known
    · cases known
      rfl
    · cases known
      rfl
    · cases known
      rfl
    · cases known
  · rintro rfl
    exact ofCode?_code filter

theorem bar_not_mem_code
    (filter : EnvFilter) :
    '|' ∉ filter.code.toList := by
  cases filter <;> decide

/-- The truth of a variable is false for one that is unset, empty, `false` or `0`, and for no other. -/
theorem toBoolean_eq_false_iff
    {raw : Option String} :
    toBoolean raw = false ↔
      raw = none ∨ raw = some "" ∨ raw = some "false" ∨ raw = some "0" := by
  cases raw with
  | none => simp [toBoolean]
  | some value => simp [toBoolean, Decidable.or_iff_not_imp_left]

end EnvFilter

namespace EnvToken

/-! ## Reading a token -/

/-- A name, a bar and the code of a filter. -/
def spell
    (name : String)
    (filter : EnvFilter) : String :=
  name ++ "|" ++ filter.code

theorem toList_spell
    (name : String)
    (filter : EnvFilter) :
    (spell name filter).toList = name.toList ++ '|' :: filter.code.toList := by
  simp [spell]

/-- The last bar of a spelled token is the one before the code. -/
theorem beforeLast_spell
    (name : String)
    (filter : EnvFilter) :
    Text.beforeLast '|' (spell name filter).toList = some (name.toList, filter.code.toList) :=
  Text.beforeLast_eq_some_iff.mpr ⟨toList_spell name filter, filter.bar_not_mem_code⟩

theorem parse_spell
    (name : String)
    (filter : EnvFilter) :
    parse (spell name filter) = ⟨name, some filter⟩ := by
  unfold parse
  rw [beforeLast_spell]
  dsimp only
  rw [String.ofList_toList, EnvFilter.ofCode?_code, String.ofList_toList]

/-- A token is spelled in at most one way. -/
theorem spell_injective
    {name name' : String}
    {filter filter' : EnvFilter}
    (same : spell name' filter' = spell name filter) :
    name' = name ∧ filter' = filter := by
  have read := congrArg parse same
  rw [parse_spell, parse_spell] at read
  cases read
  exact ⟨rfl, rfl⟩

/-- A filter is read only from a token that is spelled with it; any other token stays whole. -/
theorem parse_eq_or
    (token : String) :
    (∃ name filter, token = spell name filter) ∨ parse token = ⟨token, none⟩ := by
  unfold parse
  split
  case h_1 name suffix cut =>
      split
      case h_1 filter known =>
          have whole := (Text.beforeLast_eq_some_iff.mp cut).1
          have code := EnvFilter.ofCode?_eq_some_iff.mp known
          refine .inl ⟨String.ofList name, filter, String.toList_injective ?_⟩
          rw [toList_spell, ← code, String.toList_ofList, String.toList_ofList]
          exact whole
      case h_2 => exact .inr rfl
  case h_2 => exact .inr rfl

theorem parse_of_not_spelled
    {token : String}
    (plain : ∀ name filter, token ≠ spell name filter) :
    parse token = ⟨token, none⟩ := by
  rcases parse_eq_or token with ⟨name, filter, spelled⟩ | whole
  · exact absurd spelled (plain name filter)
  · exact whole

example : parse "A|b|!b" = ⟨"A|b", some .notBoolean⟩ := by decide

example : parse "A!|b" = ⟨"A!", some .boolean⟩ := by decide

example : parse "A|b|q" = ⟨"A|b|q", none⟩ := by decide

end EnvToken

/-! ## Looking up what was read -/

/-- The value of a variable, for a handler with variables of its own or of the host. -/
def Host.raw?
    (host : Host)
    (environment : Option (List (String × String)))
    (name : String) : Option String :=
  (environment.getD host.environment).lookup name

/-- The host after a variable was looked up; one that is not set is noted. -/
def Host.afterLookup
    (host : Host)
    (environment : Option (List (String × String)))
    (name token : String) : Host :=
  if (host.raw? environment name).isNone then
    { host with world := host.world.note (.variableUnset name token) }
  else host

namespace Handler

/-- The value that a token which has been read asks for. -/
def valueOf
    (filter : Option EnvFilter)
    (raw : Option String) : Module.Value :=
  match filter with
  | some filter => convertedValue (filter.apply raw)
  | none => raw.elim .null .str

theorem call_env
    (environment : Option (List (String × String)))
    (token : String)
    (host : Host) :
    (Handler.env environment).call token host =
      .ok (.plain
          (valueOf (EnvToken.parse token).filter
            (host.raw? environment (EnvToken.parse token).name)))
        (host.afterLookup environment (EnvToken.parse token).name token) := by
  change EStateM.map Answer.plain (readVariable (environment.getD host.environment) token) host = _
  unfold readVariable valueOf Host.afterLookup Host.raw?
  cases EnvToken.parse token with
  | mk name filter =>
      dsimp only
      cases (environment.getD host.environment).lookup name with
      | none => cases filter <;> rfl
      | some value => cases filter <;> rfl

/--
How the handler for variables reads tokens, for variables of its own or of the host:

* A name, a bar and a code of a filter are read as that name and that filter and can be read in no other
  way. The answer is what the filter makes of the variable of that name.
* Any other token is the name of a variable as a whole. The answer is its text, or null if it is not set.
* The two filters for truth answer with opposite truth values, and `b` answers false exactly for a
  variable that is unset, empty, `false` or `0`.

In every case the host stays as it is, apart from a note about a variable that is not set.
-/
theorem env_reads_grammar
    (environment : Option (List (String × String)))
    (host : Host) :
    (∀ (name : String) (filter : EnvFilter),
      (∀ (name' : String) (filter' : EnvFilter),
        EnvToken.spell name' filter' = EnvToken.spell name filter → name' = name ∧ filter' = filter) ∧
      EnvToken.parse (EnvToken.spell name filter) = ⟨name, some filter⟩ ∧
      (Handler.env environment).call (EnvToken.spell name filter) host =
        .ok (.plain (convertedValue (filter.apply (host.raw? environment name))))
          (host.afterLookup environment name (EnvToken.spell name filter))) ∧
    (∀ token : String,
      (∀ (name : String) (filter : EnvFilter), token ≠ EnvToken.spell name filter) →
      EnvToken.parse token = ⟨token, none⟩ ∧
      (Handler.env environment).call token host =
        .ok (.plain ((host.raw? environment token).elim .null .str))
          (host.afterLookup environment token token)) ∧
    ∀ name : String,
      ∃ truth : Bool,
        (Handler.env environment).call (name ++ "|b") host =
          .ok (.plain (.bool truth)) (host.afterLookup environment name (name ++ "|b")) ∧
        (Handler.env environment).call (name ++ "|!b") host =
          .ok (.plain (.bool (!truth))) (host.afterLookup environment name (name ++ "|!b")) ∧
        (truth = false ↔
          host.raw? environment name = none ∨ host.raw? environment name = some "" ∨
            host.raw? environment name = some "false" ∨
            host.raw? environment name = some "0") := by
  have answer (name : String) (filter : EnvFilter) :
      (Handler.env environment).call (EnvToken.spell name filter) host =
        .ok (.plain (convertedValue (filter.apply (host.raw? environment name))))
          (host.afterLookup environment name (EnvToken.spell name filter)) := by
    rw [call_env, EnvToken.parse_spell]
    rfl
  refine ⟨fun name filter => ⟨fun _ _ => EnvToken.spell_injective, EnvToken.parse_spell name filter,
    answer name filter⟩, fun token plain => ?_, fun name => ?_⟩
  · have whole := EnvToken.parse_of_not_spelled plain
    refine ⟨whole, ?_⟩
    rw [call_env, whole]
    rfl
  · have code (filter : EnvFilter) :
        EnvToken.spell name filter = name ++ ("|" ++ filter.code) :=
      String.append_assoc
    have plainly := answer name .boolean
    have opposite := answer name .notBoolean
    rw [code] at plainly opposite
    exact ⟨_, plainly, opposite, EnvFilter.toBoolean_eq_false_iff⟩

end Handler

end ConfigTokens
