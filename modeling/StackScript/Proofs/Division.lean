import Mathlib.Algebra.Group.Int.Defs
import StackScript.Proofs.Arity
import StackScript.Proofs.Extension
import StackScript.Proofs.Halting

set_option autoImplicit false

namespace StackScript

open Step

/-- Where these cells are the last ones of a stack that is not overfull, the built-in word of the
name is carried out in any engine. It leaves others in their place, and the rest as it is. -/
def Dictionary.Replaces (name : String) (taken left : List Int32) : Prop :=
  ∃ word, standard.find? name.toList = some word ∧
    ∀ (engine : Engine) (reads : Span → Step Unit) (state : State) (deeper : List Int32),
      state.stack.depth ≤ state.stack.capacity → state.stack.toList = deeper ++ taken →
        ∃ after, engine.dispatch reads word state = .done () after ∧
          after.stack.toList = deeper ++ left ∧ after.stack.capacity = state.stack.capacity ∧
          after = { state with stack := after.stack, events := after.events }

def Dictionary.Refuses (name : String) (taken : List Int32) (cause : Fault) : Prop :=
  ∃ word, standard.find? name.toList = some word ∧
    ∀ (engine : Engine) (reads : Span → Step Unit) (state : State) (deeper : List Int32),
      state.stack.depth ≤ state.stack.capacity → state.stack.toList = deeper ++ taken →
        ∃ after, engine.dispatch reads word state = .fault cause after ∧
          after = { state with events := after.events }

namespace Builtin

def arithmetic : List Builtin :=
  [add, subtract, multiply, divide, remainder]

theorem arity_of_arithmetic {builtin : Builtin} (member : builtin ∈ arithmetic) :
    builtin ∉ [quote, call, print, halt] ∧ builtin.inputs = 2 ∧ builtin.outputs = 1 := by
  revert builtin
  decide

variable {divisor : Int32}

theorem toInt_divide (dividend divisor : Int32) :
    (dividend / divisor).toInt =
      if dividend.toInt = -2 ^ 31 ∧ divisor.toInt = -1 then -2 ^ 31
      else dividend.toInt.tdiv divisor.toInt := by
  split
  · next overflows =>
    obtain ⟨least, opposite⟩ := overflows
    rw [Int32.toInt_div, least, opposite]
    rfl
  · next fits =>
    -- The least number has no opposite.
    by_cases least : dividend = Int32.minValue
    · refine Int32.toInt_div_of_ne_right _ _ fun opposite => fits ?_
      rw [least, opposite]
      exact ⟨rfl, rfl⟩
    · exact Int32.toInt_div_of_ne_left _ _ least

theorem divide_mul_add_remainder (dividend divisor : Int32) :
    dividend / divisor * divisor + dividend % divisor = dividend := by
  have law := congrArg Int32.ofInt (Int.tdiv_mul_add_tmod dividend.toInt divisor.toInt)
  rwa [Int32.ofInt_add, Int32.ofInt_mul, ← divide_eq_ofInt, ← remainder_eq_ofInt,
    Int32.ofInt_toInt, Int32.ofInt_toInt] at law

theorem natAbs_remainder_lt (nonzero : divisor ≠ 0) (dividend : Int32) :
    (dividend % divisor).toInt.natAbs < divisor.toInt.natAbs := by
  have positive : 0 < divisor.toInt.natAbs := by
    rw [Int.natAbs_pos]
    exact fun zero => nonzero (Int32.toInt_inj.1 zero)
  rw [Int32.toInt_mod, Int.natAbs_tmod]
  exact Nat.mod_lt _ positive

theorem sign_remainder (dividend divisor : Int32) :
    dividend % divisor = 0 ∨ (dividend % divisor).toInt.sign = dividend.toInt.sign := by
  by_cases zero : (dividend % divisor).toInt = 0
  · exact .inl (Int32.toInt_inj.1 zero)
  · refine .inr ?_
    rw [Int32.toInt_mod] at zero ⊢
    rw [Int.sign_tmod, if_neg (mt Int.tmod_eq_zero_of_dvd zero)]

end Builtin

section Binary

variable {name : String} {word : Word} {builtin : Builtin} {first second result : Int32}
  {engine : Engine} {state inner behind : State} {deeper : List Int32}

theorem Engine.dispatch_arithmetic (declared : word.declared? = some builtin)
    (arithmetic : builtin ∈ Builtin.arithmetic) (depth : state.stack.depth ≤ state.stack.capacity)
    (cells : state.stack.toList = deeper ++ [first, second]) (engine : Engine)
    (reads : Span → Step Unit) :
    engine.dispatch reads word state =
      let noted := state.note (.invoking word.name state.stack)
      if builtin.refuses [second, first] then .fault .divisionByZero noted
      else .done () (noted.withCells (builtin.effect [second, first] ++ deeper.reverse)) := by
  obtain ⟨special, takes, leaves⟩ := Builtin.arity_of_arithmetic arithmetic
  have before : builtin.inputs + deeper.reverse.length ≤ state.stack.capacity := by
    rwa [Stack.depth, Stack.cells_of_toList cells, List.length_append, List.length_reverse,
      show [first, second].length = builtin.inputs from takes.symm] at depth
  have after : builtin.outputs + deeper.reverse.length ≤ state.stack.capacity := by
    omega
  have room : builtin.outputs - builtin.inputs ≤ state.stack.room := by
    simp [takes, leaves]
  let noted := state.note (.invoking word.name state.stack)
  have same : noted.withCells ([second, first] ++ deeper.reverse) = noted :=
    State.withCells_of_toList (show noted.stack.toList = deeper ++ [first, second] from cells)
  calc engine.dispatch reads word state
      = builtin.invoke reads (noted.withCells ([second, first] ++ deeper.reverse)) :=
        engine.dispatch_builtin declared cells takes.symm room reads
    _ = if builtin.refuses [second, first] then
          .fault .divisionByZero (noted.withCells ([second, first] ++ deeper.reverse))
        else .done () (noted.withCells (builtin.effect [second, first] ++ deeper.reverse)) :=
        Builtin.invoke_plain special takes.symm before after
    _ = _ := by rw [same]

namespace Dictionary

theorem replaces_arithmetic (builtin : Builtin)
    (found : standard.find? name.toList = some word)
    (declared : word.declared? = some builtin)
    (arithmetic : builtin ∈ Builtin.arithmetic) (accepts : builtin.refuses [second, first] = false)
    (effect : builtin.effect [second, first] = [result]) :
    Replaces name [first, second] [result] := by
  refine ⟨word, found, fun engine reads state deeper depth cells => ?_⟩
  have works := engine.dispatch_arithmetic declared arithmetic depth cells reads
  rw [accepts, if_neg Bool.false_ne_true, effect] at works
  refine ⟨_, works, ?_, rfl, rfl⟩
  simp [Stack.toList, State.withCells]

theorem refuses_arithmetic (builtin : Builtin)
    (found : standard.find? name.toList = some word)
    (declared : word.declared? = some builtin)
    (arithmetic : builtin ∈ Builtin.arithmetic)
    (refuses : builtin.refuses [second, first] = true) :
    Refuses name [first, second] .divisionByZero := by
  refine ⟨word, found, fun engine reads state deeper depth cells => ?_⟩
  have works := engine.dispatch_arithmetic declared arithmetic depth cells reads
  rw [refuses, if_pos rfl] at works
  exact ⟨_, works, rfl⟩

end Dictionary

namespace Engine

variable {asks : Action → Prop} {callers : List Caller} {name : Text} {cause : Fault}
  {after : State}

theorem readWord_of_dispatch_fault (named : nextName? inner = .done (some name) behind)
    (meaning : engine.dictionary.meaning name = .word word)
    (operation : word.operation = .builtin builtin) (ordinary : builtin ≠ .call)
    (failed : engine.dispatch (fun _ => return ()) word behind = .fault cause after) :
    engine.readWord inner = .fault cause after := by
  rw [dispatch, bind_apply, operation] at failed
  rw [readWord_of_word named meaning, operation]
  dsimp only
  rw [Builtin.errand_eq ordinary]
  cases checked : checkArity word behind with
  | done value noted =>
    rw [checked, Outcome.bind_done] at failed
    have sent : (do
        builtin.invoke fun _ => return ()
        return .nothing : Step Errand) noted = .fault cause after := by
      rw [bind_apply, show builtin.invoke _ noted = _ from failed]
      rfl
    exact congrArg (Outcome.bind · fun errand => .done errand.task) sent
  | fault cause' after' =>
    rw [checked] at failed
    cases failed
    rfl
  | crash | endless =>
    rw [checked] at failed
    cases failed

end Engine

namespace Dictionary.Refuses

variable {asks : Action → Prop} {callers : List Caller} {taken : List Int32} {cause : Fault}

theorem readWord_fault (refuses : Refuses name taken cause)
    (ordinary : ∀ word, standard.find? name.toList = some word →
      word.operation ≠ .builtin .call)
    (words : List Word) (built : engine.dictionary = (standard.registerAll words).1)
    (named : Engine.nextName? inner = .done (some name.toList) behind)
    (depth : inner.stack.depth ≤ inner.stack.capacity)
    (cells : inner.stack.toList = deeper ++ taken) :
    ∃ after, engine.readWord inner = .fault cause after ∧ after.stack = inner.stack := by
  obtain ⟨word, found, fails⟩ := refuses
  obtain ⟨builtin, declared⟩ := Option.isSome_iff_exists.1 (declared?_standard found)
  have operation := (Word.spec_of_declared? declared).1
  have call : builtin ≠ .call := by
    rintro rfl
    exact ordinary word found operation
  have known : standard.meaning name.toList = .word word := by
    rw [meaning, found]
  have defined : standard.meaning name.toList ≠ .unknown := by simp [known]
  have meaning : engine.dictionary.meaning name.toList = .word word := by
    rw [built, meaning_registerAll defined, known]
  obtain ⟨_, _, cursor, rfl⟩ := Engine.nextName?_some named
  obtain ⟨after, failed, same⟩ :=
    fails engine (fun _ => return ()) (inner.at cursor) deeper depth cells
  have stack : after.stack = inner.stack := by rw [same]; rfl
  exact ⟨after, Engine.readWord_of_dispatch_fault named meaning operation call failed, stack⟩

end Dictionary.Refuses

end Binary

/-- Whatever two numbers stand on top, if the divisor is not zero the words for the quotient and for
the remainder put these in their place. The quotient goes toward zero, or it is the least number
where it would be too large. The remainder is smaller than the divisor and zero or of the sign of
the dividend, and the words that multiply and add make the dividend of the three again. If the
divisor is zero both words fail and the numbers stay, and so they do in however many frames: the
innermost one is left for that fault, and with the built-in words only the whole turn is refused. -/
theorem Dictionary.division_law (dividend divisor : Int32) :
    (divisor ≠ 0 → ∃ quotient remainder product,
      Replaces "/" [dividend, divisor] [quotient] ∧
      Replaces "mod" [dividend, divisor] [remainder] ∧
      Replaces "*" [quotient, divisor] [product] ∧
      Replaces "+" [product, remainder] [dividend] ∧
      quotient.toInt = (if dividend.toInt = -2 ^ 31 ∧ divisor.toInt = -1 then -2 ^ 31
        else dividend.toInt.tdiv divisor.toInt) ∧
      remainder.toInt.natAbs < divisor.toInt.natAbs ∧
      (remainder = 0 ∨ remainder.toInt.sign = dividend.toInt.sign)) ∧
    ∀ name ∈ ["/", "mod"], Refuses name [dividend, 0] .divisionByZero ∧
      ∀ {engine : Engine} {asks : Action → Prop} {callers : List Caller}
        {inner behind : State} {deeper : List Int32},
        Engine.nextName? inner = .done (some name.toList) behind →
        inner.stack.toList = deeper ++ [dividend, 0] →
          (∀ words, engine.dictionary = (standard.registerAll words).1 →
            engine.Reaches asks ⟨.read, callers, inner⟩ →
              ∃ after, after.stack = inner.stack ∧ ∀ later,
                engine.Leads asks ⟨.read, callers, inner⟩ later ↔
                  later = ⟨.leave (.error .divisionByZero), callers, after⟩) ∧
          ∀ {action : Action} {state : State}, engine.dictionary = .standard →
            engine.Between asks state → asks action →
            engine.Within (.opening action state) ⟨.read, callers, inner⟩ →
              ∃ after, engine.turn action state = .returned (.error .divisionByZero) after ∧
                after.stack = inner.stack := by
  constructor
  · intro nonzero
    have accepts : (divisor == 0) = false := beq_eq_false_iff_ne.2 nonzero
    refine ⟨dividend / divisor, dividend % divisor, dividend / divisor * divisor, ?_, ?_, ?_, ?_,
      Builtin.toInt_divide dividend divisor, Builtin.natAbs_remainder_lt nonzero dividend,
      Builtin.sign_remainder dividend divisor⟩
    · exact replaces_arithmetic .divide rfl rfl (by decide) accepts rfl
    · exact replaces_arithmetic .remainder rfl rfl (by decide) accepts rfl
    · exact replaces_arithmetic .multiply rfl rfl (by decide) rfl rfl
    · refine replaces_arithmetic .add rfl rfl (by decide) rfl ?_
      exact congrArg (fun sum => [sum]) (Builtin.divide_mul_add_remainder dividend divisor)
  · intro name member
    have refuses : Refuses name [dividend, 0] .divisionByZero := by
      rcases List.mem_pair.1 member with rfl | rfl
      · exact refuses_arithmetic .divide rfl rfl (by decide) rfl
      · exact refuses_arithmetic .remainder rfl rfl (by decide) rfl
    have ordinary : ∀ word, standard.find? name.toList = some word →
        word.operation ≠ .builtin .call := by
      rcases List.mem_pair.1 member with rfl | rfl <;> rintro _ ⟨⟩ <;> exact nofun
    refine ⟨refuses, fun named cells => ⟨fun words built reaches => ?_, ?_⟩⟩
    · obtain ⟨after, failed, same⟩ := refuses.readWord_fault ordinary words built named
        (reaches.depth_le_capacity nofun) cells
      exact ⟨after, same, fun later => Engine.leads_of_fault failed⟩
    · intro action state standard between wanted within
      have depth := ((between.opening wanted).within within).depth_le_capacity nofun
      obtain ⟨after, failed, same⟩ := refuses.readWord_fault ordinary [] standard named
        depth cells
      obtain ⟨last, returned, kept⟩ :=
        Engine.Within.turn_of_fault standard between wanted within failed
      exact ⟨last, returned, (congrArg State.stack kept).trans same⟩

theorem Dictionary.division_law_least :
    (∃ remainder product, Replaces "/" [Int32.minValue, -1] [Int32.minValue] ∧
      Replaces "mod" [Int32.minValue, -1] [remainder] ∧
      Replaces "*" [Int32.minValue, -1] [product] ∧
      Replaces "+" [product, remainder] [Int32.minValue] ∧ remainder = 0) ∧
    ∃ callers inner, callers.length = 3 ∧ inner.stack.toList = [0, 1] ++ [7, 0] ∧
      usual.Within (.opening (.run "[ 7 0 / ] [ 0 do ] 1 do".toList) .fresh)
        ⟨.read, callers, inner⟩ ∧
      (∃ after, after.stack = inner.stack ∧ ∀ later,
        usual.Leads (fun _ => True) ⟨.read, callers, inner⟩ later ↔
          later = ⟨.leave (.error .divisionByZero), callers, after⟩) ∧
      ∃ after, usual.turn (.run "[ 7 0 / ] [ 0 do ] 1 do".toList) .fresh =
          .returned (.error .divisionByZero) after ∧
        after.stack = inner.stack := by
  constructor
  · obtain ⟨quotient, remainder, product, divides, leaves, multiplies, adds, number, small, _⟩ :=
      (division_law Int32.minValue (-1)).1 (by decide)
    have least : quotient = Int32.minValue := Int32.toInt_inj.1 number
    subst least
    have none : remainder.toInt.natAbs < 1 := small
    have zero : remainder = 0 := Int32.toInt_inj.1 (Int.natAbs_eq_zero.1 (Nat.lt_one_iff.1 none))
    exact ⟨remainder, product, divides, leaves, multiplies, adds, zero⟩
  · have between : usual.Between (fun _ => True) .fresh :=
      .start (rfl : usual.start? .unlimited = some .fresh)
    have awaited :
        usual.Within (.opening (.run "[ 7 0 / ] [ 0 do ] 1 do".toList) .fresh) _ :=
      .single (.await rfl)
    have opened := awaited.tail (.enter (by decide) (by decide))
    have captured := (opened.tail (.read rfl)).tail (.read rfl)
    have called := (captured.tail (.read rfl)).tail (.read rfl)
    have entered := called.tail (.enter (by decide) (by decide))
    have called := (entered.tail (.read rfl)).tail (.read rfl)
    have entered := called.tail (.enter (by decide) (by decide))
    have pushed := (entered.tail (.read rfl)).tail (.read rfl)
    obtain ⟨callers, inner, behind, deep, cells, within, named⟩ : ∃ callers inner behind,
        callers.length = 3 ∧ inner.stack.toList = [0, 1] ++ [7, 0] ∧
        usual.Within (.opening (.run "[ 7 0 / ] [ 0 do ] 1 do".toList) .fresh)
          ⟨.read, callers, inner⟩ ∧
        Engine.nextName? inner = .done (some "/".toList) behind :=
      ⟨_, _, _, rfl, rfl, pushed, rfl⟩
    have reaches := (between.opening trivial).within within
    have zero := (division_law 7 0).2 "/" (by decide)
    exact ⟨callers, inner, deep, cells, within, (zero.2 named cells).1 [] rfl reaches,
      (zero.2 named cells).2 rfl between trivial within⟩

end StackScript
