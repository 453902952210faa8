import ReceiptTemplate.Proofs.Expr.Derivation
import ReceiptTemplate.Proofs.Expr.Scanning

/-!
# Built trees — what the parser can put together

Every tree that is derived is `Built`, a relation that holds the ways in which trees are put together
with the levels they take, and nothing of the text.  Invariants of parsed trees are proved by
induction on it.
-/

namespace ReceiptTemplate
namespace Expr

/-! ## Paths as the lexer reads them -/

/-- A path of the lexer is the current scope, or starts like a name. -/
def IsPathToken (s : String) : Prop :=
  s = "." ∨ ∃ c ∈ s.toList.head?, Token.isNameStart c = true

theorem isPathToken_of_read {cs rest : List Char} {s : String}
    (h : Token.read cs = .ok (.path s, rest)) : IsPathToken s := by
  rcases (Token.atHead_of_read h).path_cases with hread | ⟨rfl, -⟩
  · right
    rcases Token.readPath?_append hread with ⟨happend, c, hc, hstart⟩
    rcases List.exists_cons_of_ne_nil (Token.ne_nil_of_readPath? hread) with ⟨b, p, hp⟩
    rw [← happend, hp] at hc
    rw [List.cons_append, List.head?_cons, Option.mem_some_iff] at hc
    exact ⟨b, by simp [hp], hc ▸ hstart⟩
  · exact .inl rfl

/-- Whether the lexer has read a token from some place of a source. -/
def IsRead (t : Lexeme) : Prop :=
  ∃ cs, Lexeme.next cs = .ok t

theorem isRead_of_advance {t u : Lexeme} (h : t.advance = .ok u) : IsRead u :=
  ⟨t.rest, h⟩

theorem IsRead.isPathToken {t : Lexeme} {s : String} (hread : IsRead t)
    (htoken : t.token = .path s) : IsPathToken s := by
  rcases hread with ⟨cs, h⟩
  unfold Lexeme.next at h
  dsimp only at h
  split at h
  · next token rest hread =>
    cases h
    cases htoken
    exact isPathToken_of_read hread
  · cases h

/-! ## Built trees -/

/-- How far an operand is read: up to the target of further indexes, or up to its next operator. -/
inductive Stage where
  | target | chain

/-- `Built stage n k e`: an operand that was entered with `n` levels left over holds the tree `e` at
a stage where `k` of them are left. -/
inductive Built : Stage → Nat → Nat → Expr → Prop
  | path {n : Nat} {s : String} {segments : List Segment} (hs : IsPathToken s)
      (h : Path.split s = .ok segments) : Built .target n n (.path s)
  | group {n k : Nat} {e : Expr} (h : Built .chain n k e) : Built .target (n + 1) (n + 1) e
  | index {n m k : Nat} {target key : Expr} (ht : Built .target n (m + 1 + 1) target)
      (hkey : Built .chain m k key) : Built .target n (m + 1) (.index target key false)
  | member {n k : Nat} {target : Expr} (s : Segment) (ht : Built .target n (k + 1) target) :
      Built .target n k (member target s)
  | leaf {n : Nat} {e : Expr} {token : Token} (h : leaf? token = some e) : Built .chain n n e
  | negate {n k : Nat} {e : Expr} (h : Built .chain n k e) :
      Built .chain (n + 1) (n + 1) (.negate e)
  | not {n k : Nat} {e : Expr} (h : Built .chain n k e) : Built .chain (n + 1) (n + 1) (.not e)
  | indexed {n k : Nat} {e : Expr} (h : Built .target n k e) : Built .chain n n e
  | filter {n k : Nat} {e : Expr} (call : FilterCall) (h : Built .chain n (k + 1) e) :
      Built .chain n k (.filter call e)
  | operator {n m k : Nat} {l r : Expr} (op : Infix) (hl : Built .chain n (m + 1 + 1) l)
      (hr : Built .chain m k r) : Built .chain n (m + 1) (op.apply l r)

/-- What a task with `d` levels makes of the tree it was given, and of a token that was read. -/
def Task.Builds (d : Nat) (e : Expr) : Task → Prop
  | .operand _ t => IsRead t → ∃ n k, d = n + 1 ∧ Built .chain n k e
  | .prefixed t => IsRead t → Built .chain d d e
  | .postfixes _ target _ => ∀ n, Built .target n d target → ∃ k, Built .target n k e
  | .chain _ _ left _ => ∀ n, Built .chain n d left → ∃ k, Built .chain n k e

/-- Every tree of the parser is built within its levels. -/
theorem Derives.builds {d : Nat} {task : Task} {e : Expr} {u : Lexeme} (h : Derives d task e u) :
    task.Builds d e := by
  induction h with
  | operand hfirst hchain ihfirst ihchain =>
    intro hread
    rcases ihchain _ (ihfirst hread) with ⟨k, hbuilt⟩
    exact ⟨_, k, rfl, hbuilt⟩
  | negate ht hv h ih =>
    intro _
    rcases ih (isRead_of_advance hv) with ⟨n, k, rfl, hbuilt⟩
    exact .negate hbuilt
  | not ht hv h ih =>
    intro _
    rcases ih (isRead_of_advance hv) with ⟨n, k, rfl, hbuilt⟩
    exact .not hbuilt
  | group ht hv h hw hx hafter ih ihafter =>
    intro _
    rcases ih (isRead_of_advance hv) with ⟨n, k, rfl, hbuilt⟩
    rcases ihafter _ (.group hbuilt) with ⟨j, htarget⟩
    exact .indexed htarget
  | path ht hv hs hafter ih =>
    intro hread
    rcases ih _ (.path (hread.isPathToken ht) hs) with ⟨j, htarget⟩
    exact .indexed htarget
  | leaf ht hu => exact fun _ => .leaf ht
  | bare hbracket hdot => exact fun n hbuilt => ⟨_, hbuilt⟩
  | index ht hv hkey hw hx hafter ihkey ihafter =>
    intro n hbuilt
    rcases ihkey (isRead_of_advance hv) with ⟨m, k, rfl, hbuiltKey⟩
    exact ihafter n (.index hbuilt hbuiltKey)
  | noMember ht hsegments => exact fun n hbuilt => ⟨_, hbuilt⟩
  | dotted ht hsegments hafter ih => exact fun n hbuilt => ih n (.member _ hbuilt)
  | member hafter ih => exact fun n hbuilt => ih n (.member _ hbuilt)
  | last ht => exact fun n hbuilt => ⟨_, hbuilt⟩
  | looser ht hp => exact fun n hbuilt => ⟨_, hbuilt⟩
  | filter ht hp hcall hafter ih => exact fun n hbuilt => ih n (.filter _ hbuilt)
  | operator ht hfilter hp hcompared hv hright hafter ihright ihafter =>
    intro n hbuilt
    rcases ihright (isRead_of_advance hv) with ⟨m, k, rfl, hbuiltRight⟩
    exact ihafter n (.operator _ hbuilt hbuiltRight)

/-- A parsed source is a built tree. -/
theorem built_of_parse {limits : Limits} {source : String} {e : Expr}
    (h : parse limits source = .ok e) : ∃ n k, limits.depth = n + 1 ∧ Built .chain n k e := by
  rcases parseChars_eq_ok_iff.1 (parseChars_of_parse h) with ⟨t, u, ht, hderives, -⟩
  exact hderives.builds ⟨_, ht⟩

end Expr
end ReceiptTemplate
