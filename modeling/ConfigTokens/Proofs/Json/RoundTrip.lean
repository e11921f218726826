import ConfigTokens.Proofs.Json.Scalars
/-!
# Reading values that were written

A value on one line is read as that value again: in every nesting that the reader accepts, with the members of
an object in their order if their names are different. Only numbers with a point are left open here. The line
has no control character, since strings are the only place for one and escape it.
-/

namespace ConfigTokens

/-- A value for a new name comes last. -/
theorem Assoc.put_of_not_mem
    {α : Type}
    {entries : List (String × α)}
    {name : String}
    (new : name ∉ entries.map (·.1))
    (value : α) :
    put entries name value = entries ++ [(name, value)] := by
  induction entries with
  | nil => rfl
  | cons entry rest ih =>
      rw [List.map_cons, List.mem_cons, not_or] at new
      rw [put, if_neg (Ne.symm new.1), ih new.2]
      rfl

namespace Json

open ConfigTokens.Text

/--
A value that a reader accepts when it is written: without floating point numbers, with different names in each
object, and within the limits on the digits of integers and on nesting.
-/
inductive Legible (limit : DigitLimit) : Nat → Json → Prop where
  | null {depth : Nat} :
      Legible limit depth .null
  | bool {depth : Nat} (value : Bool) :
      Legible limit depth (.bool value)
  | int {depth : Nat} {value : Int} :
      limit.allows (digitCount value) = true → Legible limit depth (.int value)
  | str {depth : Nat} (value : String) :
      Legible limit depth (.str value)
  | array {depth : Nat} {items : List Json} :
      (∀ item ∈ items, Legible limit depth item) → Legible limit (depth + 1) (.array items)
  | object {depth : Nat} {members : List (String × Json)} :
      (members.map (·.1)).Nodup → (∀ member ∈ members, Legible limit depth member.2) →
        Legible limit (depth + 1) (.object members)

/-! ## How values begin -/

/-- A character that begins a value: no blank, no bracket that closes, and no mark of a byte order. -/
structure Opens (c : Char) : Prop where
  solid : isSpace c = false
  inside : c ≠ ']'
  unmarked : c ≠ '\uFEFF'

theorem opens_of_isDigit
    {c : Char}
    (digit : isDigit c = true) :
    Opens c := by
  have apart {other : Char} (none : isDigit other = false) : c ≠ other := by
    rintro rfl
    cases none.symm.trans digit
  have blank : c ≠ ' ' := apart rfl
  have tab : c ≠ '\t' := apart rfl
  have feed : c ≠ '\n' := apart rfl
  have carriage : c ≠ '\r' := apart rfl
  constructor
  · simp [isSpace, blank, tab, feed, carriage]
  · exact apart rfl
  · exact apart rfl

variable
    {limit : DigitLimit}
    {depth : Nat}
    {value : Json}

theorem Legible.opens
    (legible : Legible limit depth value) :
    ∃ c more, write value = c :: more ∧ Opens c := by
  cases legible with
  | null => exact ⟨_, _, rfl, rfl, by decide, by decide⟩
  | bool value =>
      cases value with
      | true => exact ⟨_, _, rfl, rfl, by decide, by decide⟩
      | false => exact ⟨_, _, rfl, rfl, by decide, by decide⟩
  | @int _ number _ =>
      obtain ⟨c, more, shape, lead⟩ := exists_lead_intText number
      refine ⟨c, more, shape, ?_⟩
      rcases lead with rfl | digit
      · exact ⟨rfl, by decide, by decide⟩
      · exact opens_of_isDigit digit
  | str value => exact ⟨_, _, rfl, rfl, by decide, by decide⟩
  | array _ => exact ⟨_, _, rfl, rfl, by decide, by decide⟩
  | object _ _ => exact ⟨_, _, rfl, rfl, by decide, by decide⟩

theorem skipSpace_of_solid
    {c : Char}
    (solid : isSpace c = false)
    (rest : List Char)
    (offset : Nat) :
    skipSpace (c :: rest) offset = (c :: rest, offset) := by
  rw [skipSpace, if_neg (by rw [solid]; exact Bool.false_ne_true)]

/-- The blank before a text is skipped. -/
theorem skipSpace_before
    {c : Char}
    {text more : List Char}
    (shape : text = c :: more)
    (solid : isSpace c = false)
    (rest : List Char)
    (offset : Nat) :
    skipSpace (' ' :: (text ++ rest)) offset = (text ++ rest, offset + 1) := by
  subst shape
  exact skipSpace_of_solid solid (more ++ rest) (offset + 1)

theorem Legible.skipSpace
    (legible : Legible limit depth value)
    (rest : List Char)
    (offset : Nat) :
    Json.skipSpace (write value ++ rest) offset = (write value ++ rest, offset) := by
  obtain ⟨c, more, shape, opens⟩ := legible.opens
  rw [shape, List.cons_append]
  exact skipSpace_of_solid opens.solid _ offset

/-! ## Reading parts -/

/-- A value is read from its text and what may follow a value, if the fuel is that of its length. -/
def ReadsBack
    (limit : DigitLimit)
    (depth : Nat)
    (value : Json) : Prop :=
  ∀ fuel rest offset, (write value).length ≤ fuel → Closes rest →
    ∃ later, readValue limit fuel depth (write value ++ rest) offset = .ok (value, rest, later)

theorem closes_of_cons
    {c : Char}
    (closing : c = ',' ∨ c = ']' ∨ c = '}')
    (rest : List Char) :
    Closes (c :: rest) := by
  intro other same
  cases same
  exact closing

theorem writeItems_cons
    (item : Json)
    (items : List Json) :
    writeItems (item :: items) =
      write item ++ if items = [] then [] else ',' :: ' ' :: writeItems items := by
  cases items with
  | nil =>
      rw [if_pos rfl, List.append_nil]
      rfl
  | cons next more =>
      rw [writeItems, if_neg (List.cons_ne_nil next more)]
      exact List.cons_ne_nil next more

theorem exists_writeItems
    {items : List Json}
    (filled : items ≠ [])
    (legible : ∀ item ∈ items, Legible limit depth item) :
    ∃ c more, writeItems items = c :: more ∧ Opens c := by
  obtain ⟨item, others, rfl⟩ := List.exists_cons_of_ne_nil filled
  obtain ⟨c, more, shape, opens⟩ := (legible item List.mem_cons_self).opens
  rw [writeItems_cons, shape]
  exact ⟨c, _, rfl, opens⟩

/-- The items of an array are read in order up to the bracket that closes it. -/
theorem readItems_write
    {items : List Json}
    (filled : items ≠ [])
    (legible : ∀ item ∈ items, Legible limit depth item)
    (each : ∀ item ∈ items, ReadsBack limit depth item)
    {fuel : Nat}
    (enough : (writeItems items).length + 1 ≤ fuel)
    (rest : List Char)
    (offset : Nat) :
    ∃ later,
      readItems limit fuel depth (writeItems items ++ ']' :: rest) offset = .ok (items, rest, later) := by
  induction items generalizing fuel offset with
  | nil => exact absurd rfl filled
  | cons item others ih =>
      obtain ⟨own, inner⟩ := List.forall_mem_cons.mp each
      obtain ⟨fuel, rfl⟩ := Nat.exists_eq_add_one_of_ne_zero (show fuel ≠ 0 by omega)
      cases others with
      | nil =>
          rw [writeItems] at enough ⊢
          obtain ⟨next, read⟩ :=
            own fuel (']' :: rest) offset (by omega) (closes_of_cons (.inr (.inl rfl)) rest)
          refine ⟨next + 1, ?_⟩
          rw [readItems, read]
          rfl
      | cons second more =>
          have text := writeItems_cons item (second :: more)
          rw [if_neg (List.cons_ne_nil second more)] at text
          rw [text, List.length_append, List.length_cons, List.length_cons] at enough
          let behind := writeItems (second :: more) ++ ']' :: rest
          obtain ⟨next, read⟩ :=
            own fuel (',' :: ' ' :: behind) offset (by omega) (closes_of_cons (.inl rfl) _)
          obtain ⟨later, others⟩ :=
            ih (List.cons_ne_nil second more) (List.forall_mem_cons.mp legible).2 inner
              (show _ ≤ fuel by omega) (next + 2)
          obtain ⟨c, tail, start, opens⟩ :=
            exists_writeItems (List.cons_ne_nil second more) (List.forall_mem_cons.mp legible).2
          have skipped := skipSpace_before start opens.solid (']' :: rest) (next + 1)
          refine ⟨later, ?_⟩
          rw [text, List.append_assoc, List.cons_append, List.cons_append, readItems, read]
          simp only [skipSpace_of_solid (show isSpace ',' = false from rfl)]
          rw [skipped]
          dsimp only
          rw [others]

theorem writeMembers_cons
    (name : String)
    (value : Json)
    (members : List (String × Json)) :
    writeMembers ((name, value) :: members) =
      writeString name ++ ':' :: ' ' ::
        (write value ++ if members = [] then [] else ',' :: ' ' :: writeMembers members) := by
  cases members with
  | nil =>
      rw [if_pos rfl, List.append_nil]
      rfl
  | cons next more =>
      rw [writeMembers, if_neg (List.cons_ne_nil next more), List.append_assoc]
      · rfl
      · exact List.cons_ne_nil next more

theorem exists_writeMembers
    {members : List (String × Json)}
    (filled : members ≠ []) :
    ∃ more, writeMembers members = '"' :: more := by
  obtain ⟨⟨name, value⟩, others, rfl⟩ := List.exists_cons_of_ne_nil filled
  rw [writeMembers_cons]
  exact ⟨_, rfl⟩

/-- The name of a member is read, and then the value behind it. -/
theorem readMembers_of_name
    {fuel : Nat}
    {read : List (String × Json)}
    {name : String}
    {text rest : List Char}
    (offset : Nat)
    (solid : ∀ offset, skipSpace text offset = (text, offset))
    (valued : ∀ offset, ∃ later, readValue limit fuel depth text offset = .ok (value, rest, later)) :
    ∃ later,
      readMembers limit (fuel + 1) depth read (writeString name ++ ':' :: ' ' :: text) offset =
        match skipSpace rest later with
        | ('}' :: rest, offset) => .ok (Assoc.put read name value, rest, offset + 1)
        | (',' :: rest, offset) =>
          let (rest, offset) := skipSpace rest (offset + 1)
          readMembers limit fuel depth (Assoc.put read name value) rest offset
        | (_, offset) => .error (.malformed .expectingComma offset) := by
  obtain ⟨inner, shape, named⟩ := exists_readString name (':' :: ' ' :: text)
  obtain ⟨next, first⟩ := named offset (offset + 1)
  obtain ⟨later, second⟩ := valued (next + 2)
  have blank : skipSpace (' ' :: text) (next + 1) = (text, next + 2) := solid (next + 2)
  refine ⟨later, ?_⟩
  rw [shape, readMembers, first]
  simp only [skipSpace_of_solid (show isSpace ':' = false from rfl)]
  rw [blank]
  dsimp only
  generalize readValue limit fuel depth text (next + 2) = reading at second ⊢
  subst second
  rfl

/-- The members of an object are read in order up to the brace that closes it. -/
theorem readMembers_write
    {members : List (String × Json)}
    (filled : members ≠ [])
    (legible : ∀ member ∈ members, Legible limit depth member.2)
    (each : ∀ member ∈ members, ReadsBack limit depth member.2)
    {read : List (String × Json)}
    (distinct : ((read ++ members).map (·.1)).Nodup)
    {fuel : Nat}
    (enough : (writeMembers members).length ≤ fuel)
    (rest : List Char)
    (offset : Nat) :
    ∃ later,
      readMembers limit fuel depth read (writeMembers members ++ '}' :: rest) offset =
        .ok (read ++ members, rest, later) := by
  induction members generalizing read fuel offset with
  | nil => exact absurd rfl filled
  | cons member others ih =>
      obtain ⟨name, value⟩ := member
      obtain ⟨own, inner⟩ := List.forall_mem_cons.mp each
      obtain ⟨ownLegible, innerLegible⟩ := List.forall_mem_cons.mp legible
      dsimp only at own ownLegible
      have new : name ∉ read.map (·.1) := by
        rw [List.map_append, List.map_cons] at distinct
        intro known
        exact (List.nodup_append.mp distinct).2.2 name known name List.mem_cons_self rfl
      rw [writeMembers_cons, List.length_append, List.length_cons, List.length_cons,
        List.length_append] at enough
      obtain ⟨fuel, rfl⟩ := Nat.exists_eq_add_one_of_ne_zero (show fuel ≠ 0 by omega)
      cases others with
      | nil =>
          obtain ⟨later, one⟩ :=
            @readMembers_of_name limit depth value fuel read name (write value ++ '}' :: rest)
              ('}' :: rest) offset (ownLegible.skipSpace _) fun start =>
                own fuel _ start (by omega) (closes_of_cons (.inr (.inr rfl)) rest)
          refine ⟨later + 1, ?_⟩
          rw [writeMembers_cons, if_pos rfl, List.append_nil, List.append_assoc]
          refine one.trans ?_
          simp only [skipSpace_of_solid (show isSpace '}' = false from rfl)]
          rw [Assoc.put_of_not_mem new]
      | cons second more =>
          rw [if_neg (List.cons_ne_nil second more), List.length_cons, List.length_cons] at enough
          let behind := writeMembers (second :: more) ++ '}' :: rest
          obtain ⟨next, one⟩ :=
            @readMembers_of_name limit depth value fuel read name (write value ++ ',' :: ' ' :: behind)
              (',' :: ' ' :: behind) offset (ownLegible.skipSpace _) fun start =>
                own fuel _ start (by omega) (closes_of_cons (.inl rfl) _)
          have grown : (((read ++ [(name, value)]) ++ second :: more).map (·.1)).Nodup := by
            rw [List.append_assoc]
            exact distinct
          obtain ⟨later, others⟩ :=
            ih (List.cons_ne_nil second more) innerLegible inner grown (show _ ≤ fuel by omega) (next + 2)
          obtain ⟨tail, start⟩ := exists_writeMembers (List.cons_ne_nil second more)
          have skipped := skipSpace_before start rfl ('}' :: rest) (next + 1)
          refine ⟨later, ?_⟩
          rw [writeMembers_cons, if_neg (List.cons_ne_nil second more), List.append_assoc]
          refine Eq.trans ?_ (others.trans (by rw [List.append_assoc]; rfl))
          refine (Eq.trans ?_ one).trans ?_
          · simp only [List.cons_append, List.append_assoc]
            rfl
          · simp only [skipSpace_of_solid (show isSpace ',' = false from rfl)]
            rw [skipped, Assoc.put_of_not_mem new]

/-! ## Reading values -/

theorem readValue_of_scalar
    {c : Char}
    {text rest : List Char}
    {fuel offset later : Nat}
    (noString : c ≠ '"')
    (noArray : c ≠ '[')
    (noObject : c ≠ '{')
    (scalar : readScalar limit (c :: text) offset = .ok (value, rest, later)) :
    readValue limit (fuel + 1) depth (c :: text) offset = .ok (value, rest, later) := by
  rw [readValue]
  · exact scalar
  · rintro _ same
    exact noString (List.cons.inj same).1
  · rintro _ same
    exact noArray (List.cons.inj same).1
  · rintro _ same
    exact noObject (List.cons.inj same).1

theorem readValue_of_items
    {c : Char}
    {text rest : List Char}
    {items : List Json}
    {fuel offset later : Nat}
    (opens : Opens c)
    (read : readItems limit fuel depth (c :: text) (offset + 1) = .ok (items, rest, later)) :
    readValue limit (fuel + 1) (depth + 1) ('[' :: c :: text) offset = .ok (.array items, rest, later) := by
  rw [readValue, skipSpace_of_solid opens.solid]
  split
  · next same =>
      cases same
      exact absurd rfl opens.inside
  · next same =>
      cases same
      rw [read]

theorem readValue_of_members
    {text rest : List Char}
    {members : List (String × Json)}
    {fuel offset later : Nat}
    (read : readMembers limit fuel depth [] ('"' :: text) (offset + 1) = .ok (members, rest, later)) :
    readValue limit (fuel + 1) (depth + 1) ('{' :: '"' :: text) offset =
      .ok (.object members, rest, later) := by
  rw [readValue, skipSpace_of_solid rfl]
  split
  · next same => cases same
  · next same =>
      cases same
      rw [read]

/-- The text of a value is not empty, so there is some fuel. -/
theorem Legible.readsBack_of_succ
    (legible : Legible limit depth value)
    (reads :
      ∀ fuel rest offset, (write value).length ≤ fuel + 1 → Closes rest →
        ∃ later, readValue limit (fuel + 1) depth (write value ++ rest) offset = .ok (value, rest, later)) :
    ReadsBack limit depth value := by
  intro fuel rest offset enough closes
  obtain ⟨c, more, shape, -⟩ := legible.opens
  cases fuel with
  | zero =>
      rw [shape] at enough
      exact absurd enough (Nat.not_succ_le_zero _)
  | succ fuel => exact reads fuel rest offset enough closes

theorem readsBack_int
    {number : Int}
    (allowed : limit.allows (digitCount number) = true) :
    ReadsBack limit depth (.int number) := by
  refine (Legible.int allowed).readsBack_of_succ fun fuel rest offset _ closes => ?_
  obtain ⟨later, scalar⟩ := @readScalar_intText rest limit offset closes number allowed
  obtain ⟨c, more, shape, lead⟩ := exists_lead_intText number
  have apart {other : Char} (noMinus : other ≠ '-') (noDigit : isDigit other = false) : c ≠ other := by
    rintro rfl
    rcases lead with minus | digit
    · exact noMinus minus
    · cases noDigit.symm.trans digit
  refine ⟨later, ?_⟩
  rw [write, shape, List.cons_append]
  rw [shape, List.cons_append] at scalar
  exact readValue_of_scalar (apart (by decide) rfl) (apart (by decide) rfl) (apart (by decide) rfl) scalar

theorem readsBack_array
    {items : List Json}
    (legible : ∀ item ∈ items, Legible limit depth item)
    (each : ∀ item ∈ items, ReadsBack limit depth item) :
    ReadsBack limit (depth + 1) (.array items) := by
  refine (Legible.array legible).readsBack_of_succ fun fuel rest offset enough _ => ?_
  have text : write (.array items) ++ rest = '[' :: (writeItems items ++ ']' :: rest) := by
    rw [write, List.append_assoc]
    rfl
  rw [text]
  by_cases filled : items = []
  · subst filled
    refine ⟨offset + 2, ?_⟩
    rw [writeItems, List.nil_append, readValue, skipSpace_of_solid rfl]
    rfl
  · have fueled : (writeItems items).length + 1 ≤ fuel := by
      rw [write, List.length_append, List.length_cons, List.length_singleton] at enough
      omega
    obtain ⟨later, read⟩ := readItems_write filled legible each fueled rest (offset + 1)
    obtain ⟨c, more, shape, opens⟩ := exists_writeItems filled legible
    rw [shape, List.cons_append] at read ⊢
    exact ⟨later, readValue_of_items opens read⟩

theorem readsBack_object
    {members : List (String × Json)}
    (distinct : (members.map (·.1)).Nodup)
    (legible : ∀ member ∈ members, Legible limit depth member.2)
    (each : ∀ member ∈ members, ReadsBack limit depth member.2) :
    ReadsBack limit (depth + 1) (.object members) := by
  refine (Legible.object distinct legible).readsBack_of_succ fun fuel rest offset enough _ => ?_
  have text : write (.object members) ++ rest = '{' :: (writeMembers members ++ '}' :: rest) := by
    rw [write, List.append_assoc]
    rfl
  rw [text]
  by_cases filled : members = []
  · subst filled
    refine ⟨offset + 2, ?_⟩
    rw [writeMembers, List.nil_append, readValue, skipSpace_of_solid rfl]
    rfl
  · have fueled : (writeMembers members).length ≤ fuel := by
      rw [write, List.length_append, List.length_cons, List.length_singleton] at enough
      omega
    obtain ⟨later, read⟩ :=
      @readMembers_write limit depth members filled legible each [] distinct fuel fueled rest (offset + 1)
    obtain ⟨more, shape⟩ := exists_writeMembers filled
    rw [shape, List.cons_append] at read ⊢
    exact ⟨later, readValue_of_members read⟩

/-- A value is read back from where it was written. -/
theorem Legible.readsBack
    (legible : Legible limit depth value) :
    ReadsBack limit depth value := by
  induction legible with
  | @null depth =>
      refine null.readsBack_of_succ fun fuel rest offset _ _ => ?_
      have scalar : readScalar limit (write .null ++ rest) offset = .ok (.null, rest, offset + 4) := rfl
      exact ⟨_, readValue_of_scalar (by decide) (by decide) (by decide) scalar⟩
  | @bool depth value =>
      refine (Legible.bool value).readsBack_of_succ fun fuel rest offset _ _ => ?_
      cases value with
      | true =>
          have scalar :
              readScalar limit (write (.bool true) ++ rest) offset = .ok (.bool true, rest, offset + 4) := rfl
          exact ⟨_, readValue_of_scalar (by decide) (by decide) (by decide) scalar⟩
      | false =>
          have scalar :
              readScalar limit (write (.bool false) ++ rest) offset = .ok (.bool false, rest, offset + 5) := rfl
          exact ⟨_, readValue_of_scalar (by decide) (by decide) (by decide) scalar⟩
  | int allowed => exact readsBack_int allowed
  | @str depth text =>
      refine (Legible.str text).readsBack_of_succ fun fuel rest offset _ _ => ?_
      obtain ⟨inner, shape, read⟩ := exists_readString text rest
      obtain ⟨later, string⟩ := read offset (offset + 1)
      refine ⟨later, ?_⟩
      rw [write, shape, readValue, string]
  | array legible each => exact readsBack_array legible each
  | object distinct legible each => exact readsBack_object distinct legible each

/-- A value is read again from the whole of its text. -/
theorem readChars_write
    (legible : Legible limit depth value) :
    readChars limit depth (write value) = .ok value := by
  obtain ⟨c, more, shape, opens⟩ := legible.opens
  have closes : Closes [] := fun c same => by cases same
  obtain ⟨later, read⟩ :=
    legible.readsBack (2 * (write value).length + 2) [] 0 (by omega) closes
  rw [List.append_nil] at read
  have start : Json.skipSpace (write value) 0 = (write value, 0) := by
    rw [shape]
    exact skipSpace_of_solid opens.solid more 0
  have unmarked : (write value).head? ≠ some '\uFEFF' := by
    rw [shape]
    exact fun same => opens.unmarked (Option.some.inj same)
  unfold readChars
  rw [if_neg unmarked, start]
  dsimp only
  rw [read]
  rfl

/-- What is written on one line is read again. -/
theorem readWithin_line
    (legible : Legible limit nestingLimit value) :
    readWithin limit value.line = .ok value := by
  unfold readWithin line
  rw [String.toList_ofList, readChars_write legible]
  rfl

/-! ## Control characters -/

section

variable {control : Char}

theorem mem_writeItems
    {items : List Json}
    (member : control ∈ writeItems items) :
    (∃ item ∈ items, control ∈ write item) ∨ control = ',' ∨ control = ' ' := by
  induction items with
  | nil => cases member
  | cons item others ih =>
      rw [writeItems_cons] at member
      rcases List.mem_append.mp member with own | behind
      · exact .inl ⟨item, List.mem_cons_self, own⟩
      · split at behind
        · cases behind
        · rcases List.mem_cons.mp behind with comma | later
          · exact .inr (.inl comma)
          · rcases List.mem_cons.mp later with blank | inner
            · exact .inr (.inr blank)
            · rcases ih inner with ⟨other, among, inside⟩ | between
              · exact .inl ⟨other, List.mem_cons_of_mem item among, inside⟩
              · exact .inr between

theorem mem_writeMembers
    {members : List (String × Json)}
    (member : control ∈ writeMembers members) :
    (∃ known ∈ members, control ∈ writeString known.1 ∨ control ∈ write known.2) ∨
      control = ',' ∨ control = ' ' ∨ control = ':' := by
  induction members with
  | nil => cases member
  | cons known others ih =>
      obtain ⟨name, value⟩ := known
      rw [writeMembers_cons] at member
      simp only [List.mem_append, List.mem_cons] at member
      rcases member with named | colon | blank | own | behind
      · exact .inl ⟨(name, value), List.mem_cons_self, .inl named⟩
      · exact .inr (.inr (.inr colon))
      · exact .inr (.inr (.inl blank))
      · exact .inl ⟨(name, value), List.mem_cons_self, .inr own⟩
      · split at behind
        · cases behind
        · rcases List.mem_cons.mp behind with comma | later
          · exact .inr (.inl comma)
          · rcases List.mem_cons.mp later with blank | inner
            · exact .inr (.inr (.inl blank))
            · rcases ih inner with ⟨other, among, inside⟩ | between
              · exact .inl ⟨other, List.mem_cons_of_mem _ among, inside⟩
              · exact .inr between

theorem not_mem_intText
    (small : control.toNat < 0x20)
    (number : Int) :
    control ∉ (intText number).toList := by
  have noDigit (size : Nat) : control ∉ (natText size).toList := by
    intro member
    have low := (isDigit_iff.mp (isDigit_of_mem_natText member)).1
    omega
  cases number with
  | ofNat size => exact noDigit size
  | negSucc size =>
      rw [toList_intText_negSucc, List.mem_cons, not_or]
      exact ⟨ne_of_control small (by decide), noDigit (size + 1)⟩

theorem not_mem_of_printable
    {text : List Char}
    (small : control.toNat < 0x20)
    (printable : text.all (0x20 ≤ ·.toNat) = true) :
    control ∉ text := by
  intro member
  exact absurd small (Nat.not_lt.mpr (of_decide_eq_true (List.all_eq_true.mp printable control member)))

/-- The text of a value has no control character. -/
theorem Legible.not_mem_write
    (legible : Legible limit depth value)
    (small : control.toNat < 0x20) :
    control ∉ write value := by
  have apart {other : Char} : ¬other.toNat < 0x20 → control ≠ other := ne_of_control small
  induction legible with
  | null => exact not_mem_of_printable small (by decide)
  | bool value =>
      cases value with
      | true => exact not_mem_of_printable small (by decide)
      | false => exact not_mem_of_printable small (by decide)
  | int _ => exact not_mem_intText small _
  | str text => exact not_mem_writeString small text
  | array _ ih =>
      rw [write]
      simp only [List.cons_append, List.mem_cons, List.mem_append, List.not_mem_nil, or_false, not_or]
      refine ⟨apart (by decide), fun member => ?_, apart (by decide)⟩
      rcases mem_writeItems member with ⟨item, among, inside⟩ | comma | blank
      · exact ih item among inside
      · exact apart (by decide) comma
      · exact apart (by decide) blank
  | object _ _ ih =>
      rw [write]
      simp only [List.cons_append, List.mem_cons, List.mem_append, List.not_mem_nil, or_false, not_or]
      refine ⟨apart (by decide), fun member => ?_, apart (by decide)⟩
      rcases mem_writeMembers member with ⟨known, among, named | inside⟩ | comma | blank | colon
      · exact not_mem_writeString small known.1 named
      · exact ih known among inside
      · exact apart (by decide) comma
      · exact apart (by decide) blank
      · exact apart (by decide) colon

end

end Json

end ConfigTokens
