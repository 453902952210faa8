import ReceiptTemplate.Proofs.Expr.Followed

/-!
# Outer operators — what stands outside all parentheses and brackets

A text is tight if no `|`, `??`, `||` or `&&` and no comparison stands outside of its parentheses,
its brackets and its quotes.  The text is read token by token for this, as the parser reads it: what
a filter call takes is no token, and quotes or brackets in it count for nothing.

The tight expressions are those that a comparison takes as its operands as they are, without
parentheses around them.
-/

namespace ReceiptTemplate
namespace Expr

/-! ## Tight texts -/

/-- What a token does to the nesting of an expression. -/
inductive Nesting where
  | opening | closing | call | other
deriving DecidableEq

def nesting : Token → Nesting
  | .symbol .leftParen | .symbol .leftBracket => .opening
  | .symbol .rightParen | .symbol .rightBracket => .closing
  | .symbol .pipe => .call
  | _ => .other

/-- Whether an operator binds no tighter than a comparison: it is `|`, `??`, `||`, `&&` or a
comparison. -/
def IsLoose (op : Infix) : Prop :=
  op.rank ≤ Precedence.comparison.rank

/-- `Tight n t`: from the token `t` on, which stands inside of `n` parentheses and brackets, there
is no loose operator outside of them all up to the end of the text. -/
inductive Tight : Nat → Lexeme → Prop
  | finish {t : Lexeme} (ht : t.token = .finish) : Tight 0 t
  | opening {n : Nat} {t u : Lexeme} (ht : nesting t.token = .opening) (hu : t.advance = .ok u)
      (h : Tight (n + 1) u) : Tight n t
  | closing {n : Nat} {t u : Lexeme} (ht : nesting t.token = .closing) (hu : t.advance = .ok u)
      (h : Tight n u) : Tight (n + 1) t
  | call {n : Nat} {t u : Lexeme} {call : FilterCall} (ht : nesting t.token = .call)
      (hu : filterCall t = .ok (call, u)) (h : Tight (n + 1) u) : Tight (n + 1) t
  | other {n : Nat} {t u : Lexeme} (ht : nesting t.token = .other) (hne : t.token ≠ .finish)
      (hloose : n = 0 → ∀ op, Infix.ofToken? t.token = some op → ¬IsLoose op)
      (hu : t.advance = .ok u) (h : Tight n u) : Tight n t

/-- Whether there is no loose operator outside of the parentheses, brackets and quotes of a text. -/
def IsTight (cs : List Char) : Prop :=
  ∃ t, Lexeme.next cs = .ok t ∧ Tight 0 t

/-- No operator opens or closes a part, and the pipe alone starts a call. -/
theorem nesting_of_operator {token : Token} {op : Infix} (h : Infix.ofToken? token = some op) :
    nesting token = if op = .filter then .call else .other := by
  unfold Infix.ofToken? at h
  split at h <;> first | (cases h; rfl) | cases h

theorem leaf_spec {token : Token} {e : Expr} (h : leaf? token = some e) :
    nesting token = .other ∧ token ≠ .finish ∧ Infix.ofToken? token = none := by
  cases token with
  | path | symbol | finish => cases h
  | number | text | bool | null => exact ⟨rfl, by simp, rfl⟩

namespace Tight

variable {n : Nat} {t u : Lexeme}

theorem of_opening (h : Tight n t) (ht : nesting t.token = .opening) (hu : t.advance = .ok u) :
    Tight (n + 1) u := by
  cases h with
  | opening _ hu' h =>
    cases hu.symm.trans hu'
    exact h
  | finish h => simp [h, nesting] at ht
  | closing h | call h | other h => simp [h] at ht

theorem of_closing (h : Tight (n + 1) t) (ht : nesting t.token = .closing)
    (hu : t.advance = .ok u) : Tight n u := by
  cases h with
  | closing _ hu' h =>
    cases hu.symm.trans hu'
    exact h
  | opening h | call h | other h => simp [h] at ht

theorem of_call (h : Tight n t) (ht : nesting t.token = .call) {call : FilterCall}
    (hu : filterCall t = .ok (call, u)) : Tight n u := by
  cases h with
  | call _ hu' h =>
    cases hu.symm.trans hu'
    exact h
  | finish h => simp [h, nesting] at ht
  | opening h | closing h | other h => simp [h] at ht

theorem of_other (h : Tight n t) (ht : nesting t.token = .other) (hne : t.token ≠ .finish)
    (hu : t.advance = .ok u) : Tight n u := by
  cases h with
  | other _ _ _ hu' h =>
    cases hu.symm.trans hu'
    exact h
  | finish h => exact absurd h hne
  | opening h | closing h | call h => simp [h] at ht

theorem not_isLoose (h : Tight 0 t) {op : Infix} (ht : Infix.ofToken? t.token = some op) :
    ¬IsLoose op := by
  cases h with
  | other _ _ hloose => exact hloose rfl op ht
  | finish h =>
    rw [h] at ht
    cases ht
  | opening h =>
    rw [nesting_of_operator ht] at h
    split at h <;> cases h

theorem of_path (h : Tight n t) {s : String} (ht : t.token = .path s) (hu : t.advance = .ok u) :
    Tight n u :=
  h.of_other (by rw [ht]; rfl) (by rw [ht]; exact nofun) hu

theorem of_memberSegments (h : Tight n t) (ht : t.token = .symbol .dot) {segments : List Segment}
    (hsegments : memberSegments t = .ok (segments, u)) : Tight n u := by
  rcases memberSegments_eq_ok hsegments with ⟨v, s, hv, hs, hu, -⟩
  exact (h.of_other (by rw [ht]; rfl) (by rw [ht]; exact nofun) hv).of_path hs hu

end Tight

variable {d n : Nat} {task : Task} {e : Expr} {p : Precedence} {u v : Lexeme}

/-- What a derivation goes over leaves as many parts open at its end as at its start. -/
theorem Derives.tight (h : Derives d task e v) (ht : Tight n task.lexeme) : Tight n v := by
  induction h generalizing n with
  | operand hfirst hchain ihfirst ihchain => exact ihchain (ihfirst ht)
  | negate htoken hv h ih | not htoken hv h ih =>
    exact ih (ht.of_other (by rw [Task.lexeme, htoken]; rfl) (by simp [Task.lexeme, htoken]) hv)
  | group htoken hv h hw hx hafter ih ihafter =>
    have hinner := ih (ht.of_opening (by rw [Task.lexeme, htoken]; rfl) hv)
    exact ihafter (hinner.of_closing (by rw [hw]; rfl) hx)
  | path htoken hv hs hafter ih => exact ih (ht.of_path htoken hv)
  | leaf htoken hu =>
    rcases leaf_spec htoken with ⟨hother, hne, -⟩
    exact ht.of_other hother hne hu
  | bare | last | looser => exact ht
  | index htoken hv hkey hw hx hafter ihkey ihafter =>
    have hinner := ihkey (ht.of_opening (by rw [Task.lexeme, htoken]; rfl) hv)
    exact ihafter (hinner.of_closing (by rw [hw]; rfl) hx)
  | noMember htoken hsegments => exact ht.of_memberSegments htoken hsegments
  | dotted htoken hsegments hafter ih => exact ih (ht.of_memberSegments htoken hsegments)
  | member hafter ih => exact ih ht
  | filter htoken hp hcall hafter ih =>
    exact ih (ht.of_call (by rw [Task.lexeme, htoken]; rfl) hcall)
  | operator htoken hfilter hp hcompared hv hright hafter ihright ihafter =>
    have hother := nesting_of_operator htoken
    rw [if_neg hfilter] at hother
    exact ihafter (ihright (ht.of_other hother (ne_finish_of_operator htoken) hv))

/-! ## Tight operands -/

/-- The same task where operators continue it that bind tighter than `p`. -/
def Task.boundBy (p : Precedence) : Task → Task
  | .operand _ t => .operand p t
  | .prefixed t => .prefixed t
  | .postfixes members e t => .postfixes members e t
  | .chain _ compared e t => .chain p compared e t

theorem continues_of_not_isLoose {op : Infix} (hp : p.rank ≤ Precedence.comparison.rank)
    (h : ¬IsLoose op) : op.continues p = true := by
  have hlt : Precedence.comparison.rank < op.rank := Nat.lt_of_not_le h
  have hlt : p.rank < op.precedence.rank := Nat.lt_of_le_of_lt hp hlt
  simp [Infix.continues, hlt]

/-- A tight text is read to its end wherever at most a comparison holds it. -/
theorem Derives.boundBy (h : Derives d task e v) (hv : v.token = .finish)
    (ht : Tight 0 task.lexeme) (hp : p.rank ≤ Precedence.comparison.rank) :
    Derives d (task.boundBy p) e v := by
  induction h with
  | operand hfirst hchain ihfirst ihchain => exact .operand hfirst (ihchain hv (hfirst.tight ht))
  | negate htoken hx h => exact .negate htoken hx h
  | not htoken hx h => exact .not htoken hx h
  | group htoken hx h hw hy hafter => exact .group htoken hx h hw hy hafter
  | path htoken hx hs hafter => exact .path htoken hx hs hafter
  | leaf htoken hx => exact .leaf htoken hx
  | bare hbracket hdot => exact .bare hbracket hdot
  | index htoken hx hkey hw hy hafter => exact .index htoken hx hkey hw hy hafter
  | noMember htoken hsegments => exact .noMember htoken hsegments
  | dotted htoken hsegments hafter => exact .dotted htoken hsegments hafter
  | member hafter => exact .member hafter
  | last htoken => exact .last htoken
  | looser htoken =>
    -- The text would end at an operator.
    exact absurd hv (ne_finish_of_operator htoken)
  | filter htoken hp hcall hafter ih =>
    have hop : Infix.ofToken? _ = some .filter := congrArg Infix.ofToken? htoken
    have hloose : IsLoose .filter := by unfold IsLoose; decide
    exact absurd hloose (ht.not_isLoose hop)
  | operator htoken hfilter hcontinues hcompared hx hright hafter ihright ihafter =>
    have hother := nesting_of_operator htoken
    rw [if_neg hfilter] at hother
    have hinner := ht.of_other hother (ne_finish_of_operator htoken) hx
    have hcontinues' := continues_of_not_isLoose hp (ht.not_isLoose htoken)
    exact .operator htoken hfilter hcontinues' hcompared hx hright
      (ihafter hv (hright.tight hinner))

theorem derives_of_isTight {cs : List Char} (h : parseChars d cs = .ok e) (htight : IsTight cs) :
    ∃ t v, Lexeme.next cs = .ok t ∧ Tight 0 t ∧ v.token = .finish ∧
      ∀ p : Precedence, p.rank ≤ Precedence.comparison.rank → Derives d (.operand p t) e v := by
  rcases parseChars_eq_ok_iff.1 h with ⟨t, v, ht, hderives, hv⟩
  rcases htight with ⟨t', ht', htight⟩
  cases ht.symm.trans ht'
  exact ⟨t, v, ht, htight, hv, fun p hp => hderives.boundBy hv htight hp⟩

/-! ## Operands of a comparison -/

/-- Whether a task leaves every loose operator to what it stands in. -/
def Task.LeavesLoose : Task → Prop
  | .operand p _ | .chain p _ _ _ => Precedence.comparison.rank ≤ p.rank
  | .prefixed _ | .postfixes _ _ _ => True

theorem not_isLoose_of_continues {op : Infix} (hp : Precedence.comparison.rank ≤ p.rank)
    (h : op.continues p = true) : ¬IsLoose op := by
  simp only [Infix.continues, Bool.or_eq_true, Bool.and_eq_true, decide_eq_true_eq,
    beq_iff_eq] at h
  rcases h with h | ⟨rfl, rfl⟩
  · exact Nat.not_le_of_lt (Nat.lt_of_le_of_lt hp h)
  · exact absurd hp (by decide)

/-- A token that is no operator and neither opens nor closes a part changes nothing. -/
theorem Tight.before (h : Tight n v) (hnesting : nesting u.token = .other)
    (hfinish : u.token ≠ .finish) (hop : Infix.ofToken? u.token = none) (hv : u.advance = .ok v) :
    Tight n u := by
  refine .other hnesting hfinish ?_ hv h
  intro _ op hsome
  rw [hop] at hsome
  cases hsome

theorem Tight.before_path (h : Tight n v) {s : String} (hs : u.token = .path s)
    (hv : u.advance = .ok v) : Tight n u :=
  h.before (by rw [hs]; rfl) (by simp [hs]) (by rw [hs]; rfl) hv

theorem Tight.before_memberSegments (h : Tight n v) (ht : u.token = .symbol .dot)
    {segments : List Segment} (hsegments : memberSegments u = .ok (segments, v)) : Tight n u := by
  rcases memberSegments_eq_ok hsegments with ⟨w, s, hw, hs, hv, -⟩
  exact (h.before_path hs hv).before (by rw [ht]; rfl) (by simp [ht]) (by rw [ht]; rfl) hw

/-- Where a derivation ends before a tight text, it starts before one, unless it goes on itself with
a loose operator outside of all parts. -/
theorem Derives.tight_start (h : Derives d task e v) (hn : n = 0 → task.LeavesLoose)
    (hv : Tight n v) : Tight n task.lexeme := by
  have hunary : Precedence.comparison.rank ≤ Precedence.unary.rank := by decide
  induction h generalizing n with
  | operand hfirst hchain ihfirst ihchain => exact ihfirst (fun _ => trivial) (ihchain hn hv)
  | negate ht hx h ih =>
    refine .other (by rw [Task.lexeme, ht]; rfl) (by simp [Task.lexeme, ht]) ?_ hx
      (ih (fun _ => hunary) hv)
    -- The sign is written like a subtraction, which is no loose operator.
    intro _ op hop
    rw [Task.lexeme, ht] at hop
    cases hop
    unfold IsLoose
    decide
  | not ht hx h ih =>
    exact (ih (fun _ => hunary) hv).before (by rw [Task.lexeme, ht]; rfl)
      (by simp [Task.lexeme, ht]) (by rw [Task.lexeme, ht]; rfl) hx
  | group ht hx h hw hy hafter ih ihafter =>
    have hclosing := Tight.closing (by rw [hw]; rfl) hy (ihafter (fun _ => trivial) hv)
    exact .opening (by rw [Task.lexeme, ht]; rfl) hx
      (ih (fun hn => absurd hn (Nat.succ_ne_zero n)) hclosing)
  | path ht hx hs hafter ih => exact (ih (fun _ => trivial) hv).before_path ht hx
  | leaf ht hx =>
    rcases leaf_spec ht with ⟨hother, hne, hop⟩
    exact hv.before hother hne hop hx
  | bare | last | looser => exact hv
  | index ht hx hkey hw hy hafter ihkey ihafter =>
    have hclosing := Tight.closing (by rw [hw]; rfl) hy (ihafter (fun _ => trivial) hv)
    exact .opening (by rw [Task.lexeme, ht]; rfl) hx
      (ihkey (fun hn => absurd hn (Nat.succ_ne_zero n)) hclosing)
  | noMember ht hsegments => exact hv.before_memberSegments ht hsegments
  | dotted ht hsegments hafter ih =>
    exact (ih (fun _ => trivial) hv).before_memberSegments ht hsegments
  | member hafter ih => exact ih (fun _ => trivial) hv
  | filter ht hp hcall hafter ih =>
    cases n with
    | zero =>
      have hloose : IsLoose .filter := by unfold IsLoose; decide
      exact absurd hloose (not_isLoose_of_continues (hn rfl) hp)
    | succ n =>
      have hinner := ih (fun hn => absurd hn (Nat.succ_ne_zero n)) hv
      exact .call (by rw [Task.lexeme, ht]; rfl) hcall hinner
  | operator ht hfilter hp hcompared hx hright hafter ihright ihafter =>
    have hother := nesting_of_operator ht
    rw [if_neg hfilter] at hother
    have hloose (hzero : n = 0) := not_isLoose_of_continues (hn hzero) hp
    have hrest := ihright (fun hzero => Nat.le_of_lt (Nat.lt_of_not_le (hloose hzero)))
      (ihafter hn hv)
    refine .other hother (ne_finish_of_operator ht) ?_ hx hrest
    intro hzero op hop
    rw [Task.lexeme] at hop
    cases ht.symm.trans hop
    exact hloose hzero

/-- The tight expressions are those that are operands of a comparison as they are. -/
theorem isTight_iff {cs : List Char} (h : parseChars d cs = .ok e) :
    IsTight cs ↔ ∃ t v, Lexeme.next cs = .ok t ∧ v.token = .finish ∧
      Derives d (.operand .comparison t) e v := by
  constructor
  · intro htight
    rcases derives_of_isTight h htight with ⟨t, v, ht, -, hv, hderives⟩
    exact ⟨t, v, ht, hv, hderives .comparison (Nat.le_refl _)⟩
  · rintro ⟨t, v, ht, hv, hderives⟩
    exact ⟨t, ht, hderives.tight_start (fun _ => Nat.le_refl _) (.finish hv)⟩

end Expr
end ReceiptTemplate
