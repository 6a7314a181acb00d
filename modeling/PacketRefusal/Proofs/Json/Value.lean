import PacketRefusal.Json.Value
import PacketRefusal.Proofs.Text.Separated

/-!
# The tokens of a value

`Value.tokens` writes a value out as tokens. The automaton reads exactly this: it ends with a value
just if the tokens were those of the value (`State.result?_eq_some_iff`).

What the automaton has taken so far can be told from its state (`State.consumed`), since open arrays
and objects keep all that stands in them, and each token is added to it at the end
(`State.consumed_of_next?`). So it ends with no value but the one that was written. That it gets
there follows the value from the outside in (`Value.runs_tokens`).
-/

set_option autoImplicit false
set_option relaxedAutoImplicit false

namespace PacketRefusal.Json

/-- Parts with a comma between each and the next one. -/
def listed (parts : List (List Token)) : List Token := [Token.comma].intercalate parts

mutual

def Value.tokens : Value → List Token
  | .null => [.null]
  | .bool value => [.bool value]
  | .number value => [.number value]
  | .text value => [.text value]
  | .array items => .openBracket :: (listed (itemTokens items) ++ [.closeBracket])
  | .object members => .openBrace :: (listed (memberTokens members) ++ [.closeBrace])

def itemTokens : List Value → List (List Token)
  | [] => []
  | item :: rest => item.tokens :: itemTokens rest

def memberTokens : List (Option String × Value) → List (List Token)
  | [] => []
  | (key, value) :: rest => (.text key :: .colon :: value.tokens) :: memberTokens rest

end

theorem listed_nil : listed [] = [] := rfl

theorem listed_cons (first : List Token) (rest : List (List Token)) :
    listed (first :: rest) = first ++ rest.flatMap (.comma :: ·) := by
  induction rest generalizing first with
  | nil => simp [listed]
  | cons second rest ih =>
    have hcons : listed (first :: second :: rest) = first ++ .comma :: listed (second :: rest) :=
      intercalate_cons (List.cons_ne_nil _ _)
    rw [hcons, ih, List.flatMap_cons, List.cons_append]

/-- The last part of several stands behind all others and their commas. -/
theorem listed_concat (parts : List (List Token)) (last : List Token) :
    listed (parts ++ [last]) = parts.flatMap (· ++ [.comma]) ++ last := by
  induction parts with
  | nil => simp [listed]
  | cons first rest ih =>
    have hcons : listed (first :: (rest ++ [last])) = first ++ .comma :: listed (rest ++ [last]) :=
      intercalate_cons (by simp)
    rw [List.cons_append, hcons, ih, List.flatMap_cons]
    simp

theorem itemTokens_eq (items : List Value) : itemTokens items = items.map Value.tokens := by
  induction items with
  | nil => rfl
  | cons item rest ih => rw [itemTokens, ih, List.map_cons]

theorem memberTokens_append (front back : List (Option String × Value)) :
    memberTokens (front ++ back) = memberTokens front ++ memberTokens back := by
  induction front with
  | nil => rfl
  | cons member rest ih => rw [List.cons_append, memberTokens, memberTokens, ih, List.cons_append]

theorem itemTokens_append (front back : List Value) :
    itemTokens (front ++ back) = itemTokens front ++ itemTokens back := by
  rw [itemTokens_eq, itemTokens_eq, itemTokens_eq, List.map_append]

/-! ### What was read -/

/-- The tokens of an array or object up to where it is open. -/
def Frame.consumed : Frame → List Token
  | .array before => .openBracket :: (itemTokens before.reverse).flatMap (· ++ [.comma])
  | .object before key =>
    .openBrace :: ((memberTokens before.reverse).flatMap (· ++ [.comma]) ++ [.text key, .colon])

/-- The tokens of all that is open, from the outside in. -/
def pendingTokens : List Frame → List Token
  | [] => []
  | frame :: outer => pendingTokens outer ++ frame.consumed

namespace State

/-- The tokens that lead to a state. -/
def consumed : State → List Token
  | value pending => pendingTokens pending
  | firstItem outer => pendingTokens outer ++ [.openBracket]
  | firstKey outer => pendingTokens outer ++ [.openBrace]
  | key before outer =>
    pendingTokens outer ++ .openBrace :: (memberTokens before.reverse).flatMap (· ++ [.comma])
  | colon before member outer =>
    pendingTokens outer ++
      .openBrace :: ((memberTokens before.reverse).flatMap (· ++ [.comma]) ++ [.text member])
  | after item pending => pendingTokens pending ++ item.tokens

theorem consumed_of_nextInValue? {pending : List Frame} {token : Token} {state : State}
    (hnext : nextInValue? pending token = some state) :
    state.consumed = pendingTokens pending ++ [token] := by
  unfold nextInValue? at hnext
  split at hnext <;> cases hnext <;> simp [consumed, Value.tokens]

/-- Each token is added at the end. -/
theorem consumed_of_next? {state state' : State} {token : Token}
    (hnext : state.next? token = some state') : state'.consumed = state.consumed ++ [token] := by
  unfold next? at hnext
  split at hnext
  case h_1 => exact consumed_of_nextInValue? hnext
  case h_3 =>
    rw [consumed_of_nextInValue? hnext]
    simp [consumed, pendingTokens, Frame.consumed, itemTokens]
  case h_12 => exact nomatch hnext
  -- What stands in an array or object is closed by the token, or goes on behind it.
  all_goals
    cases hnext
    simp [consumed, pendingTokens, Frame.consumed, Value.tokens, itemTokens, memberTokens,
      itemTokens_append, memberTokens_append, listed_concat, listed_nil]

/-! ### Runs -/

/-- The automaton gets from a state to another one by some tokens. -/
def Runs (state : State) (tokens : List Token) (state' : State) : Prop :=
  tokens.foldlM next? state = some state'

section Runs

variable {state middle state' : State} {token : Token} {tokens tokens' : List Token}

theorem runs_single (hnext : state.next? token = some state') : Runs state [token] state' := by
  rw [Runs, List.foldlM_cons, hnext]
  rfl

theorem Runs.append (hfirst : Runs state tokens middle) (hsecond : Runs middle tokens' state') :
    Runs state (tokens ++ tokens') state' := by
  rw [Runs, List.foldlM_append, hfirst]
  exact hsecond

theorem Runs.cons (hnext : state.next? token = some middle) (hrest : Runs middle tokens state') :
    Runs state (token :: tokens) state' :=
  (runs_single hnext).append hrest

theorem consumed_of_runs (hruns : Runs state tokens state') :
    state'.consumed = state.consumed ++ tokens := by
  induction tokens generalizing state with
  | nil =>
    cases hruns
    rw [List.append_nil]
  | cons token tokens ih =>
    rw [Runs, List.foldlM_cons] at hruns
    obtain ⟨middle, hnext, hrest⟩ := Option.bind_eq_some_iff.mp hruns
    rw [ih hrest, consumed_of_next? hnext, List.append_assoc, List.singleton_append]

end Runs

end State

open State

theorem Value.exists_cons_tokens (value : Value) :
    ∃ token rest, value.tokens = token :: rest ∧ token ≠ .closeBracket := by
  cases value <;> exact ⟨_, _, rfl, nofun⟩

/-- The first item of an array is read like any other value. -/
theorem runs_firstItem {outer : List Frame} {value : Value} {state : State}
    (hruns : Runs (.value (.array [] :: outer)) value.tokens state) :
    Runs (.firstItem outer) value.tokens state := by
  obtain ⟨token, rest, htokens, htoken⟩ := value.exists_cons_tokens
  have hnext : (State.firstItem outer).next? token =
      (State.value (.array [] :: outer)).next? token := by
    cases token <;> first | rfl | exact absurd rfl htoken
  rw [htokens, Runs, List.foldlM_cons] at hruns ⊢
  rw [hnext]
  exact hruns

mutual

theorem Value.runs_tokens (value : Value) (pending : List Frame) :
    Runs (.value pending) value.tokens (.after value pending) := by
  match value with
  | .null | .bool _ | .number _ | .text _ => exact runs_single rfl
  | .array [] =>
    rw [Value.tokens]
    exact .cons rfl (runs_single rfl)
  | .array (item :: rest) =>
    have hitem := item.runs_tokens (.array [] :: pending)
    rw [Value.tokens, itemTokens, listed_cons, List.append_assoc]
    exact .cons rfl ((runs_firstItem hitem).append (runs_items rest item [] pending))
  | .object [] =>
    rw [Value.tokens]
    exact .cons rfl (runs_single rfl)
  | .object ((name, item) :: rest) =>
    have hitem := item.runs_tokens (.object [] name :: pending)
    rw [Value.tokens, memberTokens, listed_cons, List.append_assoc, List.cons_append,
      List.cons_append]
    exact .cons rfl (.cons rfl (.cons rfl (hitem.append (runs_members rest item [] name pending))))

/-- The items of an array behind one that was read. -/
theorem runs_items (rest : List Value) (item : Value) (before : List Value) (outer : List Frame) :
    Runs (.after item (.array before :: outer))
      ((itemTokens rest).flatMap (.comma :: ·) ++ [.closeBracket])
      (.after (.array (before.reverse ++ item :: rest)) outer) := by
  match rest with
  | [] =>
    rw [← List.reverse_cons]
    exact runs_single rfl
  | next :: rest =>
    have hnext := next.runs_tokens (.array (item :: before) :: outer)
    have hrest := runs_items rest next (item :: before) outer
    rw [List.reverse_cons, List.append_assoc, List.singleton_append] at hrest
    rw [itemTokens, List.flatMap_cons, List.cons_append, List.cons_append, List.append_assoc]
    exact .cons rfl (hnext.append hrest)

/-- The members of an object behind one that was read. -/
theorem runs_members (rest : List (Option String × Value)) (item : Value)
    (before : List (Option String × Value)) (name : Option String) (outer : List Frame) :
    Runs (.after item (.object before name :: outer))
      ((memberTokens rest).flatMap (.comma :: ·) ++ [.closeBrace])
      (.after (.object (before.reverse ++ (name, item) :: rest)) outer) := by
  match rest with
  | [] =>
    rw [← List.reverse_cons]
    exact runs_single rfl
  | (following, next) :: rest =>
    have hnext := next.runs_tokens (.object ((name, item) :: before) following :: outer)
    have hrest := runs_members rest next ((name, item) :: before) following outer
    rw [List.reverse_cons, List.append_assoc, List.singleton_append] at hrest
    rw [memberTokens, List.flatMap_cons, List.cons_append, List.cons_append, List.cons_append,
      List.cons_append, List.append_assoc]
    exact .cons rfl (.cons rfl (.cons rfl (hnext.append hrest)))

end

/-- The automaton ends with a value just if the tokens were those of the value. -/
theorem State.result?_eq_some_iff (tokens : List Token) (value : Value) :
    (tokens.foldlM next? (.value [])).bind result? = some value ↔ tokens = value.tokens := by
  constructor
  · intro hread
    obtain ⟨state, hruns, hresult⟩ := Option.bind_eq_some_iff.mp hread
    have hconsumed := consumed_of_runs hruns
    unfold result? at hresult
    split at hresult
    · cases hresult
      exact hconsumed.symm
    · exact nomatch hresult
  · rintro rfl
    have hruns : value.tokens.foldlM next? (.value []) = some (.after value []) :=
      value.runs_tokens []
    rw [hruns]
    rfl

/-- A text is a value just if it is cut into the tokens of the value. -/
theorem Value.parse?_eq_some_iff (text : String) (value : Value) :
    Value.parse? text = some value ↔ scan? text.toList = some value.tokens := by
  constructor
  · intro hparse
    obtain ⟨tokens, hscan, hread⟩ := Option.bind_eq_some_iff.mp hparse
    rw [hscan, (State.result?_eq_some_iff tokens value).mp hread]
  · intro hscan
    have hread := (State.result?_eq_some_iff value.tokens value).mpr rfl
    exact Option.bind_eq_some_iff.mpr ⟨value.tokens, hscan, hread⟩

end PacketRefusal.Json
