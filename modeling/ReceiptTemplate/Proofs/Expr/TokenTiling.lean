import ReceiptTemplate.Proofs.Expr.Scanning

/-!
# Token tiling — the tokens of a source cover it

The lexer takes blanks and a lexeme from the front of what is left, again and again, until the end
or a place where no token starts.  The lexemes therefore stand in the source in the order of the
tokens and apart from each other, each at the place of its token, with nothing but blanks between
them.  After the last one only blanks are left, or blanks up to the place of the error.
-/

namespace ReceiptTemplate

open Unicode (isBlank)

variable {cs rest : List Char}

/-! ## One token -/

/-- What stands at the front of a text, and what the lexer makes of it: blanks, and then a lexeme,
the end of the text, or a character where no token starts. -/
inductive Lexeme.Scans : List Char → Except Fault Lexeme → Prop
  | token {ws word rest : List Char} {token : Token} (hws : Blanks ws)
      (hword : Token.LexemeOf word token) :
      Scans (ws ++ (word ++ rest)) (.ok ⟨token, word ++ rest, rest⟩)
  | finish {ws : List Char} (hws : Blanks ws) : Scans ws (.ok ⟨.finish, [], []⟩)
  | fault {ws tail : List Char} {c : Char} {cause : ParseCause} (hws : Blanks ws)
      (hc : isBlank c = false) (hcause : Token.NoneAt (c :: tail) cause)
      (hnone : ∀ word token, Token.LexemeOf word token → ¬word <+: c :: tail) :
      Scans (ws ++ c :: tail) (.error (.at cause (c :: tail)))

theorem Lexeme.next_scans (cs : List Char) : Scans cs (next cs) := by
  have hsplit := List.takeWhile_append_dropWhile (p := isBlank) (l := cs)
  have hblanks : Blanks (cs.takeWhile isBlank) := fun c hc => List.mem_takeWhile_imp hc
  have hhead := List.head?_dropWhile_not isBlank cs
  unfold next
  generalize cs.takeWhile isBlank = ws at hsplit hblanks
  generalize cs.dropWhile isBlank = start at hsplit hhead
  subst hsplit
  dsimp only
  rcases Token.read_cases start with ⟨token, rest, hread, htoken⟩ | ⟨cause, hread, hnone⟩
  · rw [hread]
    rcases htoken.lexeme with ⟨word, rfl, hword⟩ | ⟨rfl, rfl, rfl⟩
    · exact .token hblanks hword
    · rw [List.append_nil]
      exact .finish hblanks
  · have hprefix : ∀ word token, Token.LexemeOf word token → ¬word <+: start := by
      rintro word token hword ⟨rest, rfl⟩
      rcases hword.exists_read rest with ⟨p, hp⟩
      rw [hread] at hp
      cases hp
    rw [hread]
    cases hnone with
    | character c tail => exact .fault hblanks (by simpa using hhead) (.character c tail) hprefix
    | text hquote h => exact .fault hblanks (by simpa using hhead) (.text hquote h) hprefix

/-! ## Tiles -/

/-- A token with its lexeme and the blanks before it. -/
structure Tile where
  blanks : List Char
  lexeme : List Char
  token : Token

namespace Tile

def chars (t : Tile) : List Char :=
  t.blanks ++ t.lexeme

/-- The tokens with the places of their lexemes, where the text of the tiles starts at place `n`. -/
def placed : Nat → List Tile → List (Token × Nat)
  | _, [] => []
  | n, t :: tiles => (t.token, n + t.blanks.length) :: placed (n + t.chars.length) tiles

structure WellFormed (t : Tile) : Prop where
  blanks : Blanks t.blanks
  lexeme : Token.LexemeOf t.lexeme t.token

end Tile

/-- The text `cs` is the text of the tiles, one after another, and then `rest`. -/
structure Tiling (tiles : List Tile) (rest cs : List Char) : Prop where
  text : cs = tiles.flatMap Tile.chars ++ rest
  wellFormed : ∀ t ∈ tiles, t.WellFormed

/-- What comes last for a source of which `rest` is left: its end behind nothing but blanks, or the
error at the first character that is not blank, where no lexeme stands. -/
inductive TokensEnd (source : List Char) : List Char → List (Token × Nat) × Option ParseError → Prop
  | finish {ws : List Char} (hws : Blanks ws) :
      TokensEnd source ws ([(.finish, source.length)], none)
  | fault {ws tail : List Char} {c : Char} {cause : ParseCause} (hws : Blanks ws)
      (hc : isBlank c = false) (hcause : Token.NoneAt (c :: tail) cause)
      (hnone : ∀ word token, Token.LexemeOf word token → ¬word <+: c :: tail) :
      TokensEnd source (ws ++ c :: tail)
        ([], some ⟨cause, some (source.length - (c :: tail).length), String.ofList source⟩)

variable {tiles : List Tile} {n : Nat}

namespace Tiling

theorem nil (cs : List Char) : Tiling [] cs cs :=
  ⟨rfl, fun _ h => absurd h List.not_mem_nil⟩

theorem cons (h : Tiling tiles rest cs) {t : Tile} (ht : t.WellFormed) :
    Tiling (t :: tiles) rest (t.chars ++ cs) := by
  refine ⟨?_, List.forall_mem_cons.2 ⟨ht, h.wellFormed⟩⟩
  rw [h.text, List.flatMap_cons, List.append_assoc]

end Tiling

/-! ## Places -/

section

variable {item : Token × Nat} (hwf : ∀ t ∈ tiles, t.WellFormed)

include hwf

/-- Each token stands within the text of the tiles. -/
theorem Tile.place_of_mem_placed (h : item ∈ Tile.placed n tiles) :
    n ≤ item.2 ∧ item.2 < n + (tiles.flatMap Tile.chars).length := by
  induction tiles generalizing n with
  | nil => cases h
  | cons t tiles ih =>
    rcases List.forall_mem_cons.1 hwf with ⟨ht, htiles⟩
    have hpos := List.length_pos_iff.2 ht.lexeme.ne_nil
    have hchars : t.chars.length = t.blanks.length + t.lexeme.length := List.length_append
    rw [List.flatMap_cons, List.length_append]
    rcases List.mem_cons.1 h with rfl | hmem
    · dsimp only
      omega
    · have hplace := ih htiles hmem
      omega

/-- A token stands before the next one. -/
theorem Tile.pairwise_placed (n : Nat) :
    ((Tile.placed n tiles).map Prod.snd).Pairwise (· < ·) := by
  induction tiles generalizing n with
  | nil => exact .nil
  | cons t tiles ih =>
    rcases List.forall_mem_cons.1 hwf with ⟨ht, htiles⟩
    have hpos := List.length_pos_iff.2 ht.lexeme.ne_nil
    have hchars : t.chars.length = t.blanks.length + t.lexeme.length := List.length_append
    refine List.pairwise_cons.2 ⟨?_, ih htiles _⟩
    intro place hplace
    rcases List.mem_map.1 hplace with ⟨item, hitem, rfl⟩
    have hle := (Tile.place_of_mem_placed htiles hitem).1
    omega

end

/-- At the place of each token stands its lexeme. -/
theorem Tiling.lexeme_of_mem_placed (h : Tiling tiles rest cs) (before : List Char)
    {item : Token × Nat} (hitem : item ∈ Tile.placed before.length tiles) :
    ∃ word, Token.LexemeOf word item.1 ∧ word <+: (before ++ cs).drop item.2 := by
  rcases h with ⟨rfl, hwf⟩
  induction tiles generalizing before with
  | nil => cases hitem
  | cons t tiles ih =>
    rcases List.forall_mem_cons.1 hwf with ⟨ht, htiles⟩
    rcases List.mem_cons.1 hitem with rfl | hmem
    · refine ⟨t.lexeme, ht.lexeme, tiles.flatMap Tile.chars ++ rest, ?_⟩
      have hsplit : before ++ ((t :: tiles).flatMap Tile.chars ++ rest)
          = (before ++ t.blanks) ++ (t.lexeme ++ (tiles.flatMap Tile.chars ++ rest)) := by
        simp [Tile.chars]
      rw [hsplit, List.drop_left' List.length_append]
    · rw [← List.length_append] at hmem
      have hsplit : before ++ ((t :: tiles).flatMap Tile.chars ++ rest)
          = (before ++ t.chars) ++ (tiles.flatMap Tile.chars ++ rest) := by
        simp
      rw [hsplit]
      exact ih _ hmem htiles

namespace Expr

/-! ## The tokens of a source -/

/-- The lexer tiles what is left of a source, and comes to its end or to the error. -/
theorem tokens_go_tiled (source : List Char) (fuel : Nat) (cs : List Char)
    (hfuel : cs.length < fuel) (hn : source.length = n + cs.length) :
    ∃ tiles rest final, Tiling tiles rest cs ∧ TokensEnd source rest final ∧
      tokens.go source fuel cs = (Tile.placed n tiles ++ final.1, final.2) := by
  induction fuel generalizing cs n with
  | zero => omega
  | succ fuel ih =>
    have hscans := Lexeme.next_scans cs
    rw [tokens.go]
    generalize Lexeme.next cs = found at hscans
    cases hscans with
    | @token ws word left token hws hword =>
      let t : Tile := ⟨ws, word, token⟩
      have hchars : t.chars.length = ws.length + word.length := List.length_append
      have hpos := List.length_pos_iff.2 hword.ne_nil
      simp only [List.length_append] at hfuel hn
      have hplace : source.length - (word ++ left).length = n + ws.length := by
        rw [List.length_append]
        omega
      rcases @ih (n + t.chars.length) left (by omega) (by omega) with
        ⟨tiles, rest, final, htiling, hend, hgo⟩
      refine ⟨t :: tiles, rest, final, ?_, hend, ?_⟩
      · rw [← List.append_assoc]
        exact htiling.cons ⟨hws, hword⟩
      · dsimp only
        rw [if_neg hword.ne_finish, hgo, hplace]
        rfl
    | finish hws => exact ⟨[], cs, _, .nil cs, .finish hws, rfl⟩
    | fault hws hc hcause hnone => exact ⟨[], _, _, .nil _, .fault hws hc hcause hnone, rfl⟩

/-- The tokens of a source tile it: in the order of their places come the tokens of the tiles, each
where its lexeme stands, and then the end of the source or the error. -/
theorem tokens_tiled (source : String) :
    ∃ tiles rest final, Tiling tiles rest source.toList ∧ TokensEnd source.toList rest final ∧
      tokens source = (Tile.placed 0 tiles ++ final.1, final.2) ∧
      (∀ item ∈ Tile.placed 0 tiles, ∃ word, word ≠ [] ∧ Token.LexemeOf word item.1 ∧
        word <+: source.toList.drop item.2) ∧
      ((tokens source).1.map Prod.snd).Pairwise (· < ·) := by
  rcases tokens_go_tiled source.toList (source.toList.length + 1) source.toList (Nat.lt_succ_self _)
    (Nat.zero_add _).symm with ⟨tiles, rest, final, htiling, hend, hgo⟩
  refine ⟨tiles, rest, final, htiling, hend, hgo, ?_, ?_⟩
  · intro item hitem
    rcases htiling.lexeme_of_mem_placed [] hitem with ⟨word, hword, hprefix⟩
    exact ⟨word, hword.ne_nil, hword, hprefix⟩
  · have hpairwise := Tile.pairwise_placed htiling.wellFormed 0
    have hgo : (tokens source).1 = Tile.placed 0 tiles ++ final.1 := congrArg Prod.fst hgo
    rw [hgo, List.map_append]
    refine List.pairwise_append.2 ⟨hpairwise, ?_, ?_⟩
    · cases hend <;> simp
    · -- The end of the source is behind all lexemes.
      intro place hplace last hlast
      rcases List.mem_map.1 hplace with ⟨item, hitem, rfl⟩
      have hlt := (Tile.place_of_mem_placed htiling.wellFormed hitem).2
      have hlength := congrArg List.length htiling.text
      rw [List.length_append] at hlength
      cases hend with
      | finish hws =>
        simp only [List.map_cons, List.map_nil, List.mem_singleton] at hlast
        omega
      | fault => cases hlast

end Expr
end ReceiptTemplate
