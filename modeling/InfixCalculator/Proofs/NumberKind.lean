import InfixCalculator.Proofs.Concatenation
import InfixCalculator.Proofs.Phrases

/-! # Integers stay exact until a division

An expression without division has an integer value, computed without rounding and without failure.
Once a division takes part, every result above it is a binary64 number in range, if there is one.
The operators of a text reach the tree unchanged, so the same can be told from the text.
-/
namespace InfixCalculator

/-- A binary64 number that is neither infinite nor a NaN. -/
def Number.IsFiniteFloat (v : Number) : Prop :=
  ∃ x : Float, v = .float x ∧ x.isFinite

namespace Operator

theorem integer?_eq_none_iff {op : Operator} {a b : Int} : op.integer? a b = none ↔ op = div := by
  cases op <;> simp [integer?]

theorem apply_of_integer? {op : Operator} {a b c : Int} (h : op.integer? a b = some c) :
    op.apply (.int a) (.int b) = .ok (.int c) := by
  cases op <;> cases h <;> rfl

theorem finiteResult_isFiniteFloat {op : Operator} {result : Option Float} {v : Number}
    (h : op.finiteResult result = .ok v) : v.IsFiniteFloat := by
  unfold finiteResult at h
  split at h
  · next x =>
    split at h
    · next finite =>
      cases h
      exact ⟨x, rfl, finite⟩
    · cases h
  · cases h

theorem apply_div_isFiniteFloat {a b v : Number} (h : div.apply a b = .ok v) :
    v.IsFiniteFloat := by
  unfold apply at h
  split at h
  · cases h
  · cases a <;> cases b <;> exact finiteResult_isFiniteFloat h

theorem apply_isFiniteFloat {op : Operator} {a b v : Number}
    (float : a.IsFiniteFloat ∨ b.IsFiniteFloat) (h : op.apply a b = .ok v) : v.IsFiniteFloat := by
  unfold apply at h
  split at h
  · cases h
  · rcases float with ⟨x, rfl, -⟩ | ⟨x, rfl, -⟩
    · exact finiteResult_isFiniteFloat h
    · cases a <;> exact finiteResult_isFiniteFloat h

end Operator

namespace Expr

theorem exists_integer? {e : Expr} (no_division : .div ∉ e.operators) :
    ∃ n, e.integer? = some n := by
  induction e with
  | number n => exact ⟨n, rfl⟩
  | binary op left right level ihl ihr =>
    simp only [operators, List.mem_append, List.mem_cons, not_or] at no_division
    obtain ⟨no_left, op_ne, no_right⟩ := no_division
    obtain ⟨a, ha⟩ := ihl no_left
    obtain ⟨b, hb⟩ := ihr no_right
    have exact : (op.integer? a b).isSome := by
      rw [Option.isSome_iff_ne_none, ne_eq, Operator.integer?_eq_none_iff]
      exact fun h => op_ne h.symm
    obtain ⟨c, hc⟩ := Option.isSome_iff_exists.mp exact
    exact ⟨c, by simp [integer?, ha, hb, hc]⟩

theorem value_of_integer? {e : Expr} {n : Int} (h : e.integer? = some n) :
    e.value = .ok (.int n) := by
  induction e generalizing n with
  | number m =>
    cases h
    rfl
  | binary op left right level ihl ihr =>
    simp only [integer?] at h
    split at h
    · next a b ha hb =>
      simp only [value, ihl ha, ihr hb]
      exact Operator.apply_of_integer? h
    · cases h

theorem value_binary_eq_ok {op : Operator} {left right : Expr} {level : Level} {v : Number} :
    (binary op left right level).value = .ok v ↔
      ∃ a b, left.value = .ok a ∧ right.value = .ok b ∧ op.apply a b = .ok v := by
  cases hl : left.value <;> cases hr : right.value <;>
    simp [value, hl, hr, bind, Except.bind]

theorem value_isFiniteFloat {e : Expr} {v : Number} (division : .div ∈ e.operators)
    (h : e.value = .ok v) : v.IsFiniteFloat := by
  induction e generalizing v with
  | number n => simp [operators] at division
  | binary op left right level ihl ihr =>
    obtain ⟨a, b, ha, hb, happly⟩ := value_binary_eq_ok.mp h
    simp only [operators, List.mem_append, List.mem_cons] at division
    rcases division with division | rfl | division
    · exact Operator.apply_isFiniteFloat (.inl (ihl division ha)) happly
    · exact Operator.apply_div_isFiniteFloat happly
    · exact Operator.apply_isFiniteFloat (.inr (ihr division hb)) happly

end Expr

namespace Token

theorem operator?_of_ofSymbol? {c : Char} {t : Token} (h : ofSymbol? c = some t) :
    t.operator? = Operator.ofSymbol? c := by
  unfold ofSymbol? at h
  split at h
  · next hc => cases h; subst hc; rfl
  · split at h
    · next hc => cases h; subst hc; rfl
    · obtain ⟨op, hop, rfl⟩ := Option.map_eq_some_iff.mp h
      exact hop.symm

theorem operator_ofSymbol?_of_isDigit {c : Char} (h : c.isDigit) : Operator.ofSymbol? c = none := by
  rw [Option.eq_none_iff_forall_ne_some]
  intro op hop
  rw [Operator.ofSymbol?_eq_some_iff] at hop
  subst hop
  revert h
  cases op <;> decide

/-- The scan takes over the operators of the text, each as often and in the same order. -/
theorem operators_scan {start : Nat} {text : List Char} {placed : List PlacedToken}
    (h : scan start text = .ok placed) :
    placed.filterMap (·.token.operator?) = text.filterMap Operator.ofSymbol? := by
  fun_induction scan start text generalizing placed with
  | case1 start =>
    cases h
    rfl
  | case2 => cases h
  | case3 start c text digit run short =>
    rename_i ih
    obtain ⟨rest, hrest, rfl⟩ := Except.map_eq_ok_iff.mp h
    -- No digit is an operator, so the run drops out on the right-hand side.
    have digits : run.1.filterMap Operator.ofSymbol? = [] :=
      List.filterMap_eq_nil_iff.mpr fun d hd =>
        operator_ofSymbol?_of_isDigit (isDigit_of_mem_digitRun hd)
    calc
      _ = rest.filterMap (·.token.operator?) := rfl
      _ = run.2.filterMap Operator.ofSymbol? := ih hrest
      _ = (run.1 ++ run.2).filterMap Operator.ofSymbol? := by
        rw [List.filterMap_append, digits, List.nil_append]
      _ = text.filterMap Operator.ofSymbol? := by rw [digitRun_append]
      _ = _ := (List.filterMap_cons_none (operator_ofSymbol?_of_isDigit digit)).symm
  | case4 start c text no_digit t ht ih =>
    obtain ⟨rest, hrest, rfl⟩ := Except.map_eq_ok_iff.mp h
    rw [List.filterMap_cons, List.filterMap_cons, operator?_of_ofSymbol? ht, ih hrest]
  | case5 start text no_digit no_symbol ih =>
    rw [List.filterMap_cons_none (by decide)]
    exact ih h
  | case6 => cases h

end Token

theorem operators_readTokens {text : String} {tokens : List Token}
    (h : readTokens text = .ok tokens) :
    tokens.filterMap Token.operator? = text.toList.filterMap Operator.ofSymbol? := by
  obtain ⟨placed, hscan, rfl⟩ := readTokens_eq_ok_iff.mp h
  rw [List.filterMap_map]
  exact Token.operators_scan hscan

/-- The tree that the tokens of a text derive has the operators of the text. -/
theorem Derives.operators_of_text {text : String} {tokens : List Token} {e : Expr}
    {category : Category} (derives : Derives category tokens e)
    (scanned : readTokens text = .ok tokens) :
    e.operators = text.toList.filterMap Operator.ofSymbol? := by
  rw [derives.operators_eq, operators_readTokens scanned]

theorem Derives.div_mem_operators_iff {text : String} {tokens : List Token} {e : Expr}
    {category : Category} (derives : Derives category tokens e)
    (scanned : readTokens text = .ok tokens) : .div ∈ e.operators ↔ '/' ∈ text.toList := by
  rw [derives.operators_of_text scanned, List.mem_filterMap]
  simp only [Operator.ofSymbol?_eq_some_iff]
  exact exists_eq_right'

namespace Expr

/-- Without division an expression evaluates to its exact integer value. With one it evaluates to a
binary64 number in range or fails, and never to an integer. -/
theorem evaluate_kind (e : Expr) :
    (.div ∉ e.operators → ∃ n, e.integer? = some n ∧ e.evaluate = .ok (.int n)) ∧
      (.div ∈ e.operators →
        (∃ error, e.evaluate = .error error) ∨ ∃ v, e.evaluate = .ok v ∧ v.IsFiniteFloat) := by
  rw [evaluate_eq_value]
  constructor
  · intro no_division
    obtain ⟨n, hn⟩ := exists_integer? no_division
    exact ⟨n, hn, value_of_integer? hn⟩
  · intro division
    cases h : e.value with
    | error error => exact .inl ⟨error, rfl⟩
    | ok v => exact .inr ⟨v, rfl, value_isFiniteFloat division h⟩

/-- The same told from a text, under whatever limit it is read: whether it contains a slash decides
the kind of its value. -/
theorem evaluate_kind_of_text {limit : Nat} {text : String} {tokens : List Token} {e : Expr}
    (scanned : readTokens text = .ok tokens) (parsed : readAll (expression limit) tokens = .ok e) :
    ('/' ∉ text.toList → ∃ n, e.integer? = some n ∧ e.evaluate = .ok (.int n)) ∧
      ('/' ∈ text.toList →
        (∃ error, e.evaluate = .error error) ∨ ∃ v, e.evaluate = .ok v ∧ v.IsFiniteFloat) := by
  have derives := (readAll_expression_eq_ok_iff.mp parsed).1
  rw [← derives.div_mem_operators_iff scanned]
  exact e.evaluate_kind

end Expr

/-- The kind of a value follows from the text as it does from the tree. -/
theorem evaluateText_kind :
    (∀ (text : String) (tokens : List Token) (e : Expr),
      readTokens text = .ok tokens → readExpr tokens = .ok e →
        ('/' ∉ text.toList → ∃ n, e.integer? = some n ∧ evaluateText text = .ok (.int n)) ∧
          ('/' ∈ text.toList →
            (∃ error, evaluateText text = .error (.arithmetic error)) ∨
              ∃ v, evaluateText text = .ok v ∧ v.IsFiniteFloat)) ∧
      (∀ e : Expr,
        (.div ∉ e.operators → ∃ n, e.integer? = some n ∧ e.evaluate = .ok (.int n)) ∧
          (.div ∈ e.operators →
            (∃ error, e.evaluate = .error error) ∨ ∃ v, e.evaluate = .ok v ∧ v.IsFiniteFloat)) := by
  refine ⟨?_, Expr.evaluate_kind⟩
  intro text tokens e scanned parsed
  rw [evaluateText_eq scanned parsed]
  obtain ⟨exact, inexact⟩ := Expr.evaluate_kind_of_text scanned (readExpr_eq_ok_iff.mp parsed)
  constructor
  · intro no_slash
    obtain ⟨n, hn, heval⟩ := exact no_slash
    exact ⟨n, hn, by rw [heval]; rfl⟩
  · intro slash
    rcases inexact slash with ⟨error, heval⟩ | ⟨v, heval, finite⟩
    · exact .inl ⟨error, by rw [heval]; rfl⟩
    · exact .inr ⟨v, by rw [heval]; rfl, finite⟩

theorem evaluateText_kind_difference :
    evaluateText "2*(3-5)" = .ok (.int (-4)) ∧
      ((∃ error, evaluateText "6/3" = .error (.arithmetic error)) ∨
        ∃ v, evaluateText "6/3" = .ok v ∧ v.IsFiniteFloat) := by
  obtain ⟨kind, -⟩ := evaluateText_kind
  constructor
  · have scanned : readTokens "2*(3-5)" = .ok [.number 2, .operator .mul, .leftParen, .number 3,
        .operator .sub, .number 5, .rightParen] := by decide +kernel
    have parsed : readExpr [.number 2, .operator .mul, .leftParen, .number 3, .operator .sub,
        .number 5, .rightParen] = .ok (.binary .mul (.number 2)
          (.binary .sub (.number 3) (.number 5) .additive) .multiplicative) := by decide +kernel
    obtain ⟨n, hn, heval⟩ := (kind _ _ _ scanned parsed).1 (by decide)
    cases hn
    exact heval
  · have scanned : readTokens "6/3" = .ok [.number 6, .operator .div, .number 3] := by
      decide +kernel
    have parsed : readExpr [.number 6, .operator .div, .number 3] =
        .ok (.binary .div (.number 6) (.number 3) .multiplicative) := by decide +kernel
    exact (kind _ _ _ scanned parsed).2 (by decide)

end InfixCalculator
