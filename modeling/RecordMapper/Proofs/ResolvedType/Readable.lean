import RecordMapper.Proofs.ResolvedType.Spelling
import RecordMapper.Proofs.Text.Readable

/-!
# Readable types

The text of a well-formed type tells the type, at any depth (`ResolvedType.eq_of_spelled_alike`). A
name goes on for as long as its characters last. The character after it tells whether arguments
follow, and after the word of a variance there is a space, which comes after no name. So a type can
be read from the front of every text in which no other type could go on (`ResolvedType.readable_spell`).
-/

namespace RecordMapper

open RecordMapper.Text

namespace SpelledType

/-- What can come after a type: nothing, or what stands between and after arguments. -/
def Ends (rest : List Char) : Prop :=
  ∀ c ∈ rest.head?, c ∈ [',', '>']

theorem ends_nil : Ends [] := by
  simp [Ends]

/-- The texts of the arguments after the first one, each with the comma before it. -/
def furtherChars (texts : List String) : List Char :=
  texts.flatMap fun text => ',' :: ' ' :: text.toList

theorem ends_further (texts : List String) (rest : List Char) :
    Ends (furtherChars texts ++ '>' :: rest) := by
  cases texts with
  | nil => simp [Ends, furtherChars]
  | cons text others => simp [Ends, furtherChars]

theorem toList_intercalate_cons (text : String) (others : List String) :
    (", ".intercalate (text :: others)).toList = text.toList ++ furtherChars others := by
  induction others generalizing text with
  | nil => simp [furtherChars]
  | cons next rest ih =>
      rw [String.intercalate_cons_cons, String.toList_append, String.toList_append, ih]
      simp [furtherChars]

theorem toList_bracketed_cons (text : String) (others : List String) :
    (bracketed (text :: others)).toList =
      '<' :: (text.toList ++ (furtherChars others ++ ['>'])) := by
  rw [bracketed, String.toList_append, String.toList_append, toList_intercalate_cons]
  simp

/-- The mark of a type that may be null. -/
def markChars (nullable : Bool) : List Char :=
  if nullable then ['?'] else []

/-- A type ends with its mark, or with what comes after it. -/
theorem head?_mark {rest : List Char} (ends : Ends rest) (nullable : Bool) :
    ∀ c ∈ (markChars nullable ++ rest).head?, c ∈ ['?', ',', '>'] := by
  intro c first
  cases nullable with
  | false => exact List.mem_cons_of_mem _ (ends c first)
  | true =>
      obtain rfl : '?' = c := Option.some.inj first
      exact List.mem_cons_self

theorem head?_mark_ne {rest : List Char} (ends : Ends rest) (nullable : Bool) :
    (markChars nullable ++ rest).head? ≠ some '<' := by
  intro first
  exact absurd (head?_mark ends nullable '<' first) (by decide)

/-- The mark of nullability can be told from what comes after a type. -/
theorem readable_mark {nullable other : Bool} {rest otherRest : List Char} (ends : Ends rest)
    (otherEnds : Ends otherRest)
    (same : markChars nullable ++ rest = markChars other ++ otherRest) :
    nullable = other ∧ rest = otherRest := by
  have unmarked {after : List Char} (ends : Ends after) : after.head? ≠ some '?' := by
    intro marked
    exact absurd (ends '?' marked) (by decide)
  cases nullable with
  | false =>
      cases other with
      | false => exact ⟨rfl, same⟩
      | true => exact absurd (congrArg List.head? same) (unmarked ends)
  | true =>
      cases other with
      | false => exact absurd (congrArg List.head? same).symm (unmarked otherEnds)
      | true => exact ⟨rfl, List.append_cancel_left same⟩

end SpelledType

open SpelledType

/-- What stands after the name of a type: its arguments and the mark of nullability. -/
def ResolvedType.tailChars (type : ResolvedType) : List Char :=
  (bracketed (spellArgs type.args)).toList ++ markChars type.nullable

theorem ResolvedType.toList_spell (type : ResolvedType) :
    type.spell.toList = type.qualifiedName.toList ++ type.tailChars := by
  obtain ⟨name, args, nullable⟩ := type
  rw [spell, spellParts, String.toList_append, String.toList_append, tailChars, List.append_assoc]
  cases nullable <;> rfl

/-- After the name of a type comes a bracket, a question mark, or what comes after the type. -/
theorem ResolvedType.head?_tailChars {rest : List Char} (ends : Ends rest) (type : ResolvedType) :
    ∀ c ∈ (type.tailChars ++ rest).head?, c ∈ ['<', '?', ',', '>'] := by
  obtain ⟨name, args, nullable⟩ := type
  intro c first
  rw [tailChars, List.append_assoc] at first
  cases args with
  | nil => exact List.mem_cons_of_mem _ (head?_mark ends nullable c first)
  | cons arg others =>
      rw [spellArgs, toList_bracketed_cons] at first
      obtain rfl : '<' = c := Option.some.inj first
      exact List.mem_cons_self

/-! ## Words and variances -/

namespace SpelledType

/-- The variance of an argument that begins with this word and goes on after it. A star has no word;
after a keyword there is a space, which comes after no name. -/
def shownVariance (word after : List Char) : Variance :=
  if word = [] then .star
  else if after.head? = some ' ' then if word = "out".toList then .covariant else .contravariant
  else .invariant

/-- A text that begins with a word and goes on after it in the way of an argument. -/
structure Opens (variance : Variance) (text word after : List Char) : Prop where
  text : text = word ++ after
  parts : ∀ c ∈ word, QualifiedName.isPart c = true
  stops : ∀ c ∈ after.head?, QualifiedName.isPart c = false
  variance : variance = shownVariance word after

/-- A text opens in one way only. -/
theorem Opens.unique {variance other : Variance} {text word after otherWord otherAfter : List Char}
    (opens : Opens variance text word after) (otherOpens : Opens other text otherWord otherAfter) :
    variance = other := by
  obtain ⟨rfl, rfl⟩ := eq_of_append_parts opens.parts otherOpens.parts opens.stops
    otherOpens.stops (opens.text.symm.trans otherOpens.text)
  rw [opens.variance, otherOpens.variance]

theorem isPart_of_delimits {c : Char} (listed : c ∈ ['<', '?', ',', '>', ' ', '*']) :
    QualifiedName.isPart c = false := by
  have delimits : ['<', '?', ',', '>', ' ', '*'] ⊆ Identifier.delimiters := by decide
  exact QualifiedName.isPart_delimiter (delimits listed)

theorem opens_star (rest : List Char) : Opens .star ('*' :: rest) [] ('*' :: rest) where
  text := rfl
  parts := by simp
  stops := by
    intro c first
    obtain rfl : '*' = c := Option.some.inj first
    exact isPart_of_delimits (by decide)
  variance := rfl

/-- A keyword and the space after it open an argument. -/
theorem opens_keyword {variance : Variance} {keyword : String}
    (parts : keyword.toList.all QualifiedName.isPart = true)
    (shown : ∀ after, variance = shownVariance keyword.toList (' ' :: after)) (rest : List Char) :
    Opens variance (keyword.toList ++ ' ' :: rest) keyword.toList (' ' :: rest) where
  text := rfl
  parts := List.all_eq_true.mp parts
  stops := by
    intro c first
    obtain rfl : ' ' = c := Option.some.inj first
    exact isPart_of_delimits (by decide)
  variance := shown rest

/-- The name of a type opens an argument without a keyword. -/
theorem opens_name {name : String} (valid : QualifiedName.fault? name = none) {rest : List Char}
    (marks : ∀ c ∈ rest.head?, c ∈ ['<', '?', ',', '>']) :
    Opens .invariant (name.toList ++ rest) name.toList rest where
  text := rfl
  parts := fun _ => QualifiedName.isPart_of_mem valid
  stops := fun c first => isPart_of_delimits (List.mem_append_left [' ', '*'] (marks c first))
  variance := by
    have named : name.toList ≠ [] := by
      intro blank
      rw [String.toList_eq_nil_iff.mp blank] at valid
      simp [QualifiedName.fault?] at valid
    have noSpace : rest.head? ≠ some ' ' := by
      intro first
      exact absurd (marks ' ' first) (by decide)
    rw [shownVariance, if_neg named, if_neg noSpace]

end SpelledType

/-- The text of an argument opens in the way of its variance. -/
theorem TypeArg.exists_opens {arg : TypeArg} (wellFormed : arg.WellFormed) {rest : List Char}
    (ends : Ends rest) : ∃ word after, Opens arg.variance (arg.spell.toList ++ rest) word after := by
  obtain ⟨variance, type?⟩ := arg
  cases type? with
  | none =>
      obtain rfl : variance = .star := wellFormed.type?_eq_none_iff.mp rfl
      exact ⟨_, _, opens_star rest⟩
  | some type =>
      have noStar := wellFormed.ne_star
      have typed := (TypeArg.wellFormed_some_iff noStar).mp wellFormed
      rw [TypeArg.spell_some noStar, String.toList_append, List.append_assoc]
      cases variance with
      | star => exact absurd rfl noStar
      | covariant =>
          exact ⟨_, _, @opens_keyword .covariant "out" (by decide +kernel) (fun _ => rfl) _⟩
      | contravariant =>
          exact ⟨_, _, @opens_keyword .contravariant "in" (by decide +kernel) (fun _ => rfl) _⟩
      | invariant =>
          rw [type.toList_spell, List.append_assoc]
          exact ⟨_, _, opens_name typed.name (type.head?_tailChars ends)⟩

/-- The variance of an argument can be told from its text. -/
theorem TypeArg.variance_of_spell {first second : TypeArg} (wellFormed : first.WellFormed)
    (otherWellFormed : second.WellFormed) {rest other : List Char} (ends : Ends rest)
    (otherEnds : Ends other) (same : first.spell.toList ++ rest = second.spell.toList ++ other) :
    first.variance = second.variance := by
  obtain ⟨word, after, opens⟩ := first.exists_opens wellFormed ends
  obtain ⟨otherWord, otherAfter, otherOpens⟩ := second.exists_opens otherWellFormed otherEnds
  rw [← same] at otherOpens
  exact opens.unique otherOpens

/-- The name of a type can be told from its text. -/
theorem ResolvedType.name_of_spell {first second : ResolvedType} (wellFormed : first.WellFormed)
    (otherWellFormed : second.WellFormed) {rest other : List Char} (ends : Ends rest)
    (otherEnds : Ends other) (same : first.spell.toList ++ rest = second.spell.toList ++ other) :
    first.qualifiedName = second.qualifiedName ∧
      first.tailChars ++ rest = second.tailChars ++ other := by
  rw [first.toList_spell, second.toList_spell, List.append_assoc, List.append_assoc] at same
  have opens := opens_name wellFormed.name (first.head?_tailChars ends)
  have otherOpens := opens_name otherWellFormed.name (second.head?_tailChars otherEnds)
  obtain ⟨names, tails⟩ := eq_of_append_parts opens.parts otherOpens.parts opens.stops
    otherOpens.stops same
  exact ⟨String.toList_inj.mp names, tails⟩

/-! ## Types of any depth -/

mutual

/-- **Spelled types are readable** wherever no other type could go on. -/
theorem ResolvedType.readable_spell : ∀ {first second : ResolvedType}, first.WellFormed →
    second.WellFormed → ∀ {rest other : List Char}, Ends rest → Ends other →
    first.spell.toList ++ rest = second.spell.toList ++ other → first = second ∧ rest = other
  | ⟨name, args, nullable⟩, ⟨otherName, others, otherNullable⟩, wellFormed, otherWellFormed,
      rest, other, ends, otherEnds, same => by
      obtain ⟨names, tails⟩ :=
        ResolvedType.name_of_spell wellFormed otherWellFormed ends otherEnds same
      obtain rfl : name = otherName := names
      unfold ResolvedType.WellFormed at wellFormed otherWellFormed
      rw [ResolvedType.tailChars, ResolvedType.tailChars, List.append_assoc,
        List.append_assoc] at tails
      obtain ⟨arguments, marks⟩ := readable_bracketed wellFormed.2 otherWellFormed.2
        (head?_mark_ne ends nullable) (head?_mark_ne otherEnds otherNullable) tails
      obtain ⟨rfl, rfl⟩ := readable_mark ends otherEnds marks
      obtain rfl : args = others := arguments
      exact ⟨rfl, rfl⟩

/-- The arguments of a type can be told from what stands after its name. -/
theorem readable_bracketed : ∀ {args others : List TypeArg}, WellFormedArgs args →
    WellFormedArgs others → ∀ {rest other : List Char}, rest.head? ≠ some '<' →
    other.head? ≠ some '<' →
    (bracketed (spellArgs args)).toList ++ rest = (bracketed (spellArgs others)).toList ++ other →
    args = others ∧ rest = other
  | [], [], _, _, _, _, _, _, same => ⟨rfl, same⟩
  | [], arg :: others, _, _, rest, _, plain, _, same => by
      rw [spellArgs, spellArgs, toList_bracketed_cons] at same
      exact absurd (congrArg List.head? same) plain
  | arg :: args, [], _, _, _, other, _, plain, same => by
      rw [spellArgs, spellArgs, toList_bracketed_cons] at same
      exact absurd (congrArg List.head? same).symm plain
  | arg :: args, next :: others, wellFormed, otherWellFormed, rest, other, _, _, same => by
      unfold WellFormedArgs at wellFormed otherWellFormed
      simp only [spellArgs, toList_bracketed_cons, List.cons_append, List.append_assoc,
        List.nil_append, List.cons.injEq, true_and] at same
      obtain ⟨firsts, rests⟩ := TypeArg.readable_spell wellFormed.1 otherWellFormed.1
        (ends_further _ rest) (ends_further _ other) same
      obtain ⟨later, ends⟩ := readable_furtherArgs wellFormed.2 otherWellFormed.2 rests
      exact ⟨by rw [firsts, later], ends⟩

/-- The further arguments of a type can be told from what stands after the first one. -/
theorem readable_furtherArgs : ∀ {args others : List TypeArg}, WellFormedArgs args →
    WellFormedArgs others → ∀ {rest other : List Char},
    furtherChars (spellArgs args) ++ '>' :: rest = furtherChars (spellArgs others) ++ '>' :: other →
    args = others ∧ rest = other
  | [], [], _, _, _, _, same => ⟨rfl, (List.cons.inj same).2⟩
  | [], arg :: others, _, _, _, _, same => by
      have bracket : '>' = ',' := (List.cons.inj same).1
      exact absurd bracket (by decide)
  | arg :: args, [], _, _, _, _, same => by
      have bracket : ',' = '>' := (List.cons.inj same).1
      exact absurd bracket (by decide)
  | arg :: args, next :: others, wellFormed, otherWellFormed, rest, other, same => by
      unfold WellFormedArgs at wellFormed otherWellFormed
      simp only [spellArgs, furtherChars, List.flatMap_cons, List.cons_append, List.append_assoc,
        List.cons.injEq, true_and] at same
      obtain ⟨firsts, rests⟩ := TypeArg.readable_spell wellFormed.1 otherWellFormed.1
        (ends_further _ rest) (ends_further _ other) same
      obtain ⟨later, ends⟩ := readable_furtherArgs wellFormed.2 otherWellFormed.2 rests
      exact ⟨by rw [firsts, later], ends⟩

/-- An argument can be told from what comes after it. -/
theorem TypeArg.readable_spell : ∀ {first second : TypeArg}, first.WellFormed →
    second.WellFormed → ∀ {rest other : List Char}, Ends rest → Ends other →
    first.spell.toList ++ rest = second.spell.toList ++ other → first = second ∧ rest = other
  | ⟨variance, none⟩, ⟨otherVariance, otherType?⟩, wellFormed, otherWellFormed, rest, other, ends,
      otherEnds, same => by
      obtain rfl : variance = otherVariance :=
        TypeArg.variance_of_spell wellFormed otherWellFormed ends otherEnds same
      have star : variance = .star := wellFormed.type?_eq_none_iff.mp rfl
      obtain rfl : otherType? = none := otherWellFormed.type?_eq_none_iff.mpr star
      exact ⟨rfl, List.append_cancel_left same⟩
  | ⟨variance, some type⟩, ⟨otherVariance, otherType?⟩, wellFormed, otherWellFormed, rest, other,
      ends, otherEnds, same => by
      obtain rfl : variance = otherVariance :=
        TypeArg.variance_of_spell wellFormed otherWellFormed ends otherEnds same
      have noStar := wellFormed.ne_star
      obtain ⟨otherType, rfl⟩ := Option.ne_none_iff_exists'.mp
        (mt otherWellFormed.type?_eq_none_iff.mp noStar)
      rw [TypeArg.spell_some noStar, TypeArg.spell_some noStar, String.toList_append,
        String.toList_append, List.append_assoc, List.append_assoc] at same
      obtain ⟨rfl, rfl⟩ := ResolvedType.readable_spell
        ((TypeArg.wellFormed_some_iff noStar).mp wellFormed)
        ((TypeArg.wellFormed_some_iff noStar).mp otherWellFormed) ends otherEnds
        (List.append_cancel_left same)
      exact ⟨rfl, rfl⟩

end

/-- **Spelling a type loses nothing.** Two well-formed types with the same full text are the same
type: their arguments stand in the same order, with the same variances, and the same types in them
may be null, at every depth. The words of the variances can be the names of types as well. -/
theorem ResolvedType.eq_of_spelled_alike {first second : ResolvedType}
    (wellFormed : first.WellFormed) (otherWellFormed : second.WellFormed)
    (same : first.render false = second.render false) : first = second := by
  have texts : first.spell.toList ++ [] = second.spell.toList ++ [] :=
    congrArg (·.toList ++ []) same
  exact (ResolvedType.readable_spell wellFormed otherWellFormed ends_nil ends_nil texts).1

/-- A type in which the words of the variances are the names of types. -/
def DeclaredType.sampleKeywords : DeclaredType :=
  ⟨"out", [.projection .outward (some ⟨"in", [], true⟩),
    .projection .inward (some ⟨"out", [.shorthand "*"], false⟩),
    .projection .invariant (some ⟨"in", [], false⟩)], true⟩

/-- What the words mean can be told from the text, which is that of this type alone. -/
theorem ResolvedType.eq_of_spelled_alike_keywords :
    ∃ resolved, DeclaredType.sampleKeywords.resolve = .ok resolved ∧
      resolved.render false = "out<out in?, in out<*>, in>?" ∧
      resolved = ⟨"out", [⟨.covariant, some ⟨"in", [], true⟩⟩,
        ⟨.contravariant, some ⟨"out", [.star], false⟩⟩,
        ⟨.invariant, some ⟨"in", [], false⟩⟩], true⟩ := by
  obtain ⟨resolved, resolves⟩ : ∃ resolved, DeclaredType.sampleKeywords.resolve = .ok resolved :=
    ⟨_, rfl⟩
  have wellFormed := DeclaredType.sampleKeywords.wellFormed_of_resolve resolves
  have out : QualifiedName.fault? "out" = none := by decide +kernel
  have inward : QualifiedName.fault? "in" = none := by decide +kernel
  have spelled : resolved.render false = "out<out in?, in out<*>, in>?" := by
    cases resolves
    rfl
  refine ⟨resolved, resolves, spelled, ResolvedType.eq_of_spelled_alike wellFormed ?_ spelled⟩
  simp only [ResolvedType.WellFormed, WellFormedArgs, TypeArg.WellFormed, TypeArg.star, out, inward,
    and_self]

end RecordMapper
