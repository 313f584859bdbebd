import ChordRules.Proofs.Grammar.Continuation

/-! # Faults are told as early as possible

When a text is refused at a token, all tokens before it can still be completed to a rule, and when
it is refused at its end, all of its tokens can. A reader mends its faults if whatever it has taken
up to the fault goes on to a phrase, in front of anything that closes (`Reader.Mends`). This passes
through the ways in which readers are put together. Main statement: `ofText_error_viable`. -/
namespace ChordRules

/-- The fault is the first of the lexemes, or that there is none. -/
inductive StopsAt : ParseError → List Lexeme → Prop
  | expected (what : String) {l : Lexeme} {ls : List Lexeme} :
      StopsAt (.expected what l.text l.start) (l :: ls)
  | invalidName (fault : NameFault) {l : Lexeme} {ls : List Lexeme} :
      StopsAt (.invalidName l.text fault l.start) (l :: ls)
  | numberOutOfRange {l : Lexeme} {ls : List Lexeme} :
      StopsAt (.numberOutOfRange l.text l.start) (l :: ls)
  | unexpectedEnd (what : String) : StopsAt (.unexpectedEnd what) []

def Closes (ys : List String) : Prop := ∀ y ∈ ys.head?, y = ")" ∨ y = "\x7d"

/-- The texts before the fault go on to a phrase, in front of anything that closes, and phrases
before them are read as they were. -/
def MendedAt (P : List String → α → List String → Prop) (ls : List Lexeme) (e : ParseError) :
    Prop :=
  ∃ front left us, ls = front ++ left ∧ StopsAt e left ∧ AreTokens us ∧
    ∀ ys, Closes ys →
      InPlaceOf (ls.map (·.text)) (front.map (·.text) ++ (us ++ ys)) ∧
        ∃ a, P (front.map (·.text) ++ (us ++ ys)) a ys

structure EndsWith (vs : List String) (Q : α → List String → β → List String → Prop) : Prop where
  tokens : AreTokens vs
  closes : ∀ ys, Closes ys → Closes (vs ++ ys)
  reads : ∀ a ys, Closes ys → ∃ b, Q a (vs ++ ys) b ys

theorem Closes.nil : Closes [] := nofun

theorem Closes.cons {y : String} (hy : y = ")" ∨ y = "\x7d") (ys : List String) :
    Closes (y :: ys) := by
  rintro _ ⟨⟩
  exact hy

/-- What closes a phrase is no operator. -/
theorem Closes.not_leadsWith {ys : List String} (h : Closes ys) (op : Operator)
    (zs : List String) : ¬ LeadsWith op ys zs := by
  cases ys with
  | nil => nofun
  | cons y ys =>
    refine not_leadsWith_of_mem_stopgaps ?_ op ys zs
    rcases h y rfl with rfl | rfl <;> decide

theorem Closes.head?_ne {ys : List String} (h : Closes ys) {x : String} (hparen : x ≠ ")")
    (hbrace : x ≠ "\x7d") : ys.head? ≠ some x := by
  intro hx
  rcases h x hx with rfl | rfl
  · exact hparen rfl
  · exact hbrace rfl

theorem word_zero : Word "0" (.number 0) := classify_eq_ok_iff (l := ⟨"0", .start⟩).1 rfl

theorem AreTokens.stopgap {x : String} {xs : List String} (hx : x ∈ stopgaps)
    (hxs : AreTokens xs) : AreTokens (x :: xs) := by
  have hplain : ∀ x ∈ stopgaps, isPlainToken x.toList = true := by decide
  exact hxs.cons (isToken_of_isPlainToken (hplain x hx))

theorem EndsWith.closing {x : String} {Q : α → List String → β → List String → Prop}
    (hx : x = ")" ∨ x = "\x7d") (hreads : ∀ a ys, ∃ b, Q a (x :: ys) b ys) : EndsWith [x] Q where
  tokens := .stopgap (by rcases hx with rfl | rfl <;> decide) .nil
  closes ys _ := .cons hx ys
  reads a ys _ := hreads a ys

/-- A zero in front of what closes is an expression. -/
theorem Closes.derives_expression {ys : List String} (h : Closes ys) :
    Derives .expression ("0" :: ys) (.number 0) ys :=
  .alone (word_zero.derives nofun) h.not_leadsWith

theorem Closes.derives_block {ys : List String} (h : Closes ys) :
    Derives .block ("0" :: ys) [.number 0] ys := .bare (.plain h.derives_expression)

theorem MendedAt.mono {P Q : List String → α → List String → Prop} {ls : List Lexeme}
    {e : ParseError} (h : MendedAt P ls e) (hPQ : ∀ xs a ys, P xs a ys → Q xs a ys) :
    MendedAt Q ls e := by
  obtain ⟨front, left, us, hls, hstops, hus, hreads⟩ := h
  refine ⟨front, left, us, hls, hstops, hus, fun ys hys => ?_⟩
  obtain ⟨hplace, a, ha⟩ := hreads ys hys
  exact ⟨hplace, a, hPQ _ _ _ ha⟩

/-- A fault at the first token is mended by texts in place of that token. -/
theorem mendedAt_first {P : List String → α → List String → Prop} {ls : List Lexeme}
    {e : ParseError} (hstops : StopsAt e ls) {x : String} {us : List String} (hx : x ∈ stopgaps)
    (hus : AreTokens us) (hreads : ∀ ys, Closes ys → ∃ a, P (x :: (us ++ ys)) a ys) :
    MendedAt P ls e :=
  ⟨[], ls, x :: us, rfl, hstops, .stopgap hx hus, fun ys hys =>
    ⟨.stopgap hx, hreads ys hys⟩⟩

/-- A mended fault is mended behind one token more. -/
theorem MendedAt.cons {P : List String → α → List String → Prop} {ls : List Lexeme}
    {e : ParseError} (h : MendedAt P ls e) (l : Lexeme) :
    MendedAt (fun xs a ys => ∃ zs, xs = l.text :: zs ∧ P zs a ys) (l :: ls) e := by
  obtain ⟨front, left, us, rfl, hstops, hus, hreads⟩ := h
  refine ⟨l :: front, left, us, rfl, hstops, hus, fun ys hys => ?_⟩
  obtain ⟨hplace, a, ha⟩ := hreads ys hys
  exact ⟨.cons hplace, a, _, rfl, ha⟩

/-- A fault in what is read first is mended, and then what is to follow ends. -/
theorem MendedAt.andEnd {P : List String → α → List String → Prop}
    {Q : α → List String → β → List String → Prop} {ls : List Lexeme} {e : ParseError}
    {vs : List String} (h : MendedAt P ls e) (hvs : EndsWith vs Q) :
    MendedAt (fun xs b zs => ∃ a ys, P xs a ys ∧ Q a ys b zs) ls e := by
  obtain ⟨front, left, us, hls, hstops, hus, hreads⟩ := h
  refine ⟨front, left, us ++ vs, hls, hstops, hus.append hvs.tokens, fun ys hys => ?_⟩
  obtain ⟨hplace, a, ha⟩ := hreads _ (hvs.closes ys hys)
  obtain ⟨b, hb⟩ := hvs.reads a ys hys
  rw [List.append_assoc]
  exact ⟨hplace, b, a, _, ha, hb⟩

/-- A fault in what is read second is mended behind what was read first. -/
theorem MendedAt.behind {P : List String → α → List String → Prop}
    {Q : List String → β → List String → Prop} {front left : List Lexeme} {a : α} {e : ParseError}
    (hmoves : Moves P) (hP : P ((front ++ left).map (·.text)) a (left.map (·.text)))
    (h : MendedAt Q left e) :
    MendedAt (fun xs b zs => ∃ ys, P xs a ys ∧ Q ys b zs) (front ++ left) e := by
  obtain ⟨front', left', us, rfl, hstops, hus, hreads⟩ := h
  obtain ⟨taken, htaken, hP⟩ := hmoves _ _ _ hP
  rw [List.map_append, List.append_cancel_right_eq] at htaken
  refine ⟨front ++ front', left', us, by rw [List.append_assoc], hstops, hus, fun ys hys => ?_⟩
  obtain ⟨hplace, b, hb⟩ := hreads ys hys
  have hwhole := hplace.append taken
  have hfront := hP _ hplace
  rw [← htaken, ← List.append_assoc, ← List.map_append] at hwhole hfront
  rw [← List.map_append] at hwhole
  exact ⟨hwhole, b, _, hfront, hb⟩

/-- A token that is no word is where its fault is. -/
theorem stopsAt_of_classify {l : Lexeme} {e : ParseError} (h : l.classify = .error e)
    (ls : List Lexeme) : StopsAt e (l :: ls) := by
  simp only [Lexeme.classify] at h
  split at h
  · cases h
  · split at h
    · split at h
      · cases h
      · cases h
        exact .numberOutOfRange
    · split at h
      · cases h
        exact .invalidName _
      · cases h

/-- What a reader may reply to the lexemes: it leaves the end of them, or it meets a fault that is
mended, or it finds nothing to assign to. -/
inductive MendedReply (P : List String → α → List String → Prop) (ls : List Lexeme) :
    Reply α → Prop
  | ok {a : α} {rest : Tape} (h : rest.lexemes <:+ ls) : MendedReply P ls (.ok a rest)
  | notAssignable (target : String) (place : Position) :
      MendedReply P ls (.error (.notAssignable target place))
  | mended {e : ParseError} (h : MendedAt P ls e) : MendedReply P ls (.error e)
  | spent : MendedReply P ls .spent

theorem MendedReply.mono {P Q : List String → α → List String → Prop} {ls : List Lexeme}
    {r : Reply α} (h : MendedReply P ls r) (hPQ : ∀ xs a ys, P xs a ys → Q xs a ys) :
    MendedReply Q ls r := by
  cases h with
  | ok h => exact .ok h
  | notAssignable target place => exact .notAssignable target place
  | mended h => exact .mended (h.mono hPQ)
  | spent => exact .spent

/-- The same behind one token more. -/
theorem MendedReply.cons {P : List String → α → List String → Prop} {ls : List Lexeme}
    {r : Reply α} (h : MendedReply P ls r) (l : Lexeme) :
    MendedReply (fun xs a ys => ∃ zs, xs = l.text :: zs ∧ P zs a ys) (l :: ls) r := by
  cases h with
  | ok h => exact .ok (h.trans (List.suffix_cons l ls))
  | notAssignable target place => exact .notAssignable target place
  | mended h => exact .mended (h.cons l)
  | spent => exact .spent

namespace Reader

def Mends (p : Reader α) (P : List String → α → List String → Prop) : Prop :=
  ∀ ls stop, MendedReply P ls (p ⟨ls, .endOfInput stop⟩)

theorem mends_pure (a : α) (P : List String → α → List String → Prop) :
    (Pure.pure a : Reader α).Mends P := fun _ _ => .ok List.suffix_rfl

theorem mends_spent (P : List String → α → List String → Prop) : (spent : Reader α).Mends P :=
  fun _ _ => .spent

theorem Mends.mono {p : Reader α} {P Q : List String → α → List String → Prop} (h : p.Mends P)
    (hPQ : ∀ xs a ys, P xs a ys → Q xs a ys) : p.Mends Q :=
  fun ls stop => (h ls stop).mono hPQ

/-- What goes on from a reader that has given something. -/
theorem mendedReply_bind {f : α → Reader β} {P : List String → α → List String → Prop}
    {Q : α → List String → β → List String → Prop} {ls : List Lexeme} {rest : Tape} {a : α}
    (hrest : rest.lexemes <:+ ls) (hmoves : Moves P) (hP : P (ls.map (·.text)) a rest.texts)
    (hf : MendedReply (Q a) rest.lexemes (f a rest)) :
    MendedReply (fun xs b zs => ∃ a ys, P xs a ys ∧ Q a ys b zs) ls (f a rest) := by
  obtain ⟨front, rfl⟩ := hrest
  generalize f a rest = r at hf
  cases hf with
  | ok h => exact .ok (h.trans (List.suffix_append front _))
  | notAssignable target place => exact .notAssignable target place
  | spent => exact .spent
  | mended h =>
    refine .mended ((h.behind hmoves hP).mono ?_)
    rintro xs b zs ⟨ys, hys, hb⟩
    exact ⟨a, ys, hys, hb⟩

/-- Two readers in turn, where there is a way to end what is read second. -/
theorem Mends.bind {p : Reader α} {f : α → Reader β} {P : List String → α → List String → Prop}
    {Q : α → List String → β → List String → Prop} {vs : List String} (hp : p.Mends P)
    (hexact : p.Exact P) (hmoves : Moves P) (hf : ∀ a, (f a).Mends (Q a)) (hvs : EndsWith vs Q) :
    (p >>= f).Mends fun xs b zs => ∃ a ys, P xs a ys ∧ Q a ys b zs := by
  intro ls stop
  change MendedReply _ ls (Reader.bind p f _)
  rw [Reader.bind]
  have hreply := hp ls stop
  generalize hread : p ⟨ls, .endOfInput stop⟩ = r at hreply
  cases hreply with
  | notAssignable target place => exact .notAssignable target place
  | mended h => exact .mended (h.andEnd hvs)
  | spent => exact .spent
  | @ok a rest hrest =>
    obtain ⟨hending, hP⟩ := (hexact _).1 a rest hread
    obtain ⟨ls', ending⟩ := rest
    cases hending
    exact mendedReply_bind hrest hmoves hP (hf a ls' stop)

theorem Mends.map {p : Reader α} {P : List String → α → List String → Prop} (hp : p.Mends P)
    (f : α → β) :
    (p >>= fun a => Pure.pure (f a)).Mends fun xs b ys => ∃ a, P xs a ys ∧ b = f a := by
  intro ls stop
  change MendedReply _ ls (Reader.bind p _ _)
  rw [Reader.bind]
  have hreply := hp ls stop
  generalize p ⟨ls, .endOfInput stop⟩ = r at hreply
  cases hreply with
  | ok hrest => exact .ok hrest
  | notAssignable target place => exact .notAssignable target place
  | spent => exact .spent
  | mended h =>
    obtain ⟨front, left, us, hls, hstops, hus, hreads⟩ := h
    refine .mended ⟨front, left, us, hls, hstops, hus, fun ys hys => ?_⟩
    obtain ⟨hplace, a, ha⟩ := hreads ys hys
    exact ⟨hplace, f a, a, ha, rfl⟩

theorem Mends.position_bind {f : Position → Reader α} {P : List String → α → List String → Prop}
    (hf : ∀ p, (f p).Mends P) : (position >>= f).Mends P := by
  intro ls stop
  cases ls with
  | nil =>
    rw [bind_of_ok (p := position) f rfl]
    exact hf stop [] stop
  | cons l ls =>
    rw [bind_of_ok (p := position) f rfl]
    exact hf l.start (l :: ls) stop

/-- One of two readers, by the token ahead. The first takes that token. -/
theorem Mends.ifSees {x : String} {p q : Reader α} {P Q : List String → α → List String → Prop}
    (hp : p.Mends P) (hq : q.Mends Q) :
    (sees x >>= fun b => if b then expect x >>= fun _ => p else q).Mends fun xs a ys =>
      (∃ zs, xs = x :: zs ∧ P zs a ys) ∨ Q xs a ys := by
  intro ls stop
  cases ls with
  | nil =>
    rw [bind_of_ok (p := sees x) (a := false) _ rfl]
    exact (hq [] stop).mono fun _ _ _ => .inr
  | cons l ls =>
    rw [bind_of_ok (p := sees x) (a := l.text == x) _ rfl]
    by_cases hl : l.text = x
    · subst hl
      rw [if_pos (beq_self_eq_true l.text), bind_of_ok _ (expect_of_eq rfl ls _)]
      exact ((hp ls stop).cons l).mono fun _ _ _ => .inl
    · rw [if_neg (by simpa using hl)]
      exact (hq (l :: ls) stop).mono fun _ _ _ => .inr

theorem Mends.ifAtEnd {p q : Reader α} {P : List String → α → List String → Prop}
    (hp : ∀ stop, MendedReply P [] (p ⟨[], .endOfInput stop⟩)) (hq : q.Mends P) :
    (atEnd >>= fun b => if b then p else q).Mends P := by
  intro ls stop
  cases ls with
  | nil =>
    rw [bind_of_ok (p := atEnd) (a := true) _ rfl]
    exact hp stop
  | cons l ls =>
    rw [bind_of_ok (p := atEnd) (a := false) _ rfl]
    exact hq (l :: ls) stop

/-- A token that is demanded, and what is read behind it. -/
theorem Mends.afterExpect (x : String) {p : Reader α} {P : List String → α → List String → Prop}
    (vs : List String) (hx : x ∈ stopgaps) (hp : p.Mends P) (hvs : AreTokens vs)
    (hreads : ∀ ys, Closes ys → ∃ a, P (vs ++ ys) a ys) :
    (expect x >>= fun _ => p).Mends fun xs a ys => ∃ zs, xs = x :: zs ∧ P zs a ys := by
  intro ls stop
  have mended : ∀ {e : ParseError}, StopsAt e ls →
      MendedAt (fun xs a ys => ∃ zs, xs = x :: zs ∧ P zs a ys) ls e := by
    intro e hstops
    refine mendedAt_first hstops hx hvs fun ys hys => ?_
    obtain ⟨a, ha⟩ := hreads ys hys
    exact ⟨a, _, rfl, ha⟩
  cases ls with
  | nil =>
    rw [bind_of_error (p := expect x) (e := .unexpectedEnd x) _ rfl]
    exact .mended (mended (.unexpectedEnd x))
  | cons l ls =>
    by_cases hl : l.text = x
    · subst hl
      rw [bind_of_ok _ (expect_of_eq rfl ls _)]
      exact (hp ls stop).cons l
    · rw [bind_of_error _ (expect_of_ne hl ls _)]
      exact .mended (mended (.expected x))

/-- Where a word is missing, a zero can stand. -/
theorem mends_word : word.Mends fun xs r ys => ∃ x, xs = x :: ys ∧ Word x r := by
  intro ls stop
  have mended : ∀ {e : ParseError}, StopsAt e ls →
      MendedAt (fun xs r ys => ∃ x, xs = x :: ys ∧ Word x r) ls e := fun hstops =>
    mendedAt_first hstops (x := "0") (by decide) .nil fun ys _ => ⟨_, _, rfl, word_zero⟩
  cases ls with
  | nil => exact .mended (mended (.unexpectedEnd "expression"))
  | cons l ls =>
    cases hl : l.classify with
    | ok r =>
      rw [word_of_ok hl]
      exact .ok (List.suffix_cons l ls)
    | error e =>
      rw [word_of_error hl]
      exact .mended (mended (stopsAt_of_classify hl ls))

/-- Looking for an operator meets no fault. -/
theorem exists_operator? (ls : List Lexeme) (stop : Position) :
    ∃ o rest, operator? ⟨ls, .endOfInput stop⟩ = .ok o rest ∧ rest.lexemes <:+ ls := by
  obtain _ | ⟨l, _ | ⟨m, ls⟩⟩ := ls
  · exact ⟨_, _, rfl, List.suffix_rfl⟩
  · rw [operator?_one]
    split
    · exact ⟨_, _, rfl, List.suffix_cons l []⟩
    · exact ⟨_, _, rfl, List.suffix_rfl⟩
  · rw [operator?_two]
    split
    · exact ⟨_, _, rfl, List.suffix_append [l, m] ls⟩
    · exact ⟨_, _, rfl, List.suffix_cons l (m :: ls)⟩
    · exact ⟨_, _, rfl, List.suffix_rfl⟩

/-- Behind an operator that may be missing. No way to end what follows is needed. -/
theorem Mends.operator?_bind {f : Option Operator → Reader β}
    {Q : Option Operator → List String → β → List String → Prop} (hf : ∀ o, (f o).Mends (Q o)) :
    (operator? >>= f).Mends fun xs b zs => ∃ o ys, OperatorAhead xs o ys ∧ Q o ys b zs := by
  intro ls stop
  obtain ⟨o, rest, hread, hrest⟩ := exists_operator? ls stop
  obtain ⟨hending, hahead⟩ := (exact_operator? _).1 o rest hread
  obtain ⟨ls', ending⟩ := rest
  cases hending
  rw [bind_of_ok f hread]
  exact mendedReply_bind hrest moves_operatorAhead hahead (hf o ls' stop)

structure MendsPhrases (n : Nat) : Prop where
  block : (block n).Mends (Derives .block)
  blockRest : (blockRest n).Mends (Derives .blockRest)
  statement : (statement n).Mends (Derives .statement)
  expression : (expression n).Mends (Derives .expression)
  operand : (operand n).Mends (Derives .operand)
  term : (term n).Mends (Derives .term)
  arguments : (arguments n).Mends (Derives .arguments)
  argumentsRest : (argumentsRest n).Mends (Derives .argumentsRest)

variable {n : Nat}

theorem MendsPhrases.block_succ (ih : MendsPhrases n) :
    (Reader.block (n + 1)).Mends (Derives .block) := by
  rw [Reader.block]
  refine (Mends.ifSees ih.blockRest (ih.statement.map fun s => [s])).mono fun xs ss ys => ?_
  rintro (⟨zs, rfl, h⟩ | ⟨s, h, rfl⟩)
  · exact .braced h
  · exact .bare h

theorem MendsPhrases.blockRest_succ (ih : MendsPhrases n) :
    (Reader.blockRest (n + 1)).Mends (Derives .blockRest) := by
  have hrest : EndsWith ["\x7d"] fun (ss : List Rule) xs b ys =>
      ∃ ts, Derives .blockRest xs ts ys ∧ b = ss ++ ts :=
    .closing (.inr rfl) fun ss ys => ⟨_, _, .closed, rfl⟩
  have hmore := (ih.block.bind (readsPhrases n).block (Derives.moves (by decide))
    (fun ss => ih.blockRest.map (ss ++ ·)) hrest).mono (Q := Derives .blockRest) (by
      rintro xs _ zs ⟨ss, ys, h₁, ts, h₂, rfl⟩
      exact .more h₁ h₂)
  rw [Reader.blockRest]
  refine (Mends.ifSees (mends_pure [] fun xs ss ys => ss = [] ∧ ys = xs)
    (Mends.ifAtEnd (fun stop => .mended ?_) hmore)).mono fun xs ss ys => ?_
  · exact mendedAt_first (.unexpectedEnd "\x7d") (by decide) .nil fun ys _ => ⟨[], .closed⟩
  · rintro (⟨zs, rfl, rfl, rfl⟩ | h)
    · exact .closed
    · exact h

/-- An expression and the parenthesis that closes it. -/
theorem MendsPhrases.closedExpression (ih : MendsPhrases n) :
    (Reader.expression n >>= fun r => expect ")" >>= fun _ => Pure.pure r).Mends fun xs r ys =>
      Derives .expression xs r (")" :: ys) := by
  have hclose : ∀ r : Rule, (expect ")" >>= fun _ => (Pure.pure r : Reader Rule)).Mends
      fun xs r' ys => ∃ zs, xs = ")" :: zs ∧ r' = r ∧ ys = zs := fun r =>
    .afterExpect ")" [] (by decide) (mends_pure r _) .nil fun ys _ => ⟨r, rfl, rfl⟩
  have hend : EndsWith [")"] fun (r : Rule) xs r' ys => ∃ zs, xs = ")" :: zs ∧ r' = r ∧ ys = zs :=
    .closing (.inl rfl) fun r ys => ⟨r, ys, rfl, rfl, rfl⟩
  refine (ih.expression.bind (readsPhrases n).expression (Derives.moves (by decide)) hclose
    hend).mono ?_
  rintro xs r zs ⟨r', ys, h, _, rfl, rfl, rfl⟩
  exact h

theorem MendsPhrases.operand_succ (ih : MendsPhrases n) :
    (Reader.operand (n + 1)).Mends (Derives .operand) := by
  rw [Reader.operand]
  refine (Mends.ifSees ih.closedExpression ih.term).mono fun xs r ys => ?_
  rintro (⟨zs, rfl, h⟩ | h)
  · exact .parenthesized h
  · exact .unparenthesized h

theorem MendsPhrases.term_succ (ih : MendsPhrases n) :
    (Reader.term (n + 1)).Mends (Derives .term) := by
  have hmoves : Moves fun xs r ys => ∃ x, xs = x :: ys ∧ Word x r := by
    rintro xs r ys ⟨x, rfl, hx⟩
    exact ⟨[x], rfl, fun zs _ => ⟨x, rfl, hx⟩⟩
  have hend : EndsWith [] AfterWord :=
    ⟨.nil, fun ys hys => hys, fun r ys hys =>
      ⟨r, .alone fun _ => hys.head?_ne (by decide) (by decide)⟩⟩
  rw [Reader.term]
  refine (mends_word.bind exact_word hmoves (fun w => ?_) hend).mono fun xs r ys => ?_
  · cases w
    case symbol name =>
      refine (Mends.ifSees (ih.arguments.map fun args => Rule.call name args)
        (mends_pure (Rule.symbol name) ?_)).mono fun xs r ys => ?_
      · exact fun xs r ys => AfterWord (.symbol name) xs r ys
      · rintro (⟨zs, rfl, args, hargs, rfl⟩ | h)
        · exact .call hargs
        · exact h
    all_goals exact mends_pure _ _
  · rintro ⟨w, zs, ⟨x, rfl, hx⟩, hafter⟩
    cases hafter with
    | call hargs =>
      cases hx with
      | name _ hname => exact .call hname hargs
    | alone hgreedy => exact .word hx hgreedy

/-- What may stand behind an operator, or in its place. -/
theorem MendsPhrases.operation (ih : MendsPhrases n) (left : Rule) (start : Position)
    (op : Operator) :
    Mends (if op = .assign ∧ left.isSymbol = false then fail (.notAssignable left.render start)
      else do return Rule.binary op left (← Reader.expression n))
      (AfterOperand left (some op)) := by
  by_cases h : op = .assign ∧ left.isSymbol = false
  · rw [if_pos h]
    exact fun ls stop => .notAssignable _ _
  · rw [if_neg h]
    have target : op = .assign → left.isSymbol = true := fun hop => by simpa [hop] using h
    refine (ih.expression.map fun right => Rule.binary op left right).mono ?_
    rintro xs _ ys ⟨right, hright, rfl⟩
    exact .some target hright

theorem MendsPhrases.expression_succ (ih : MendsPhrases n) :
    (Reader.expression (n + 1)).Mends (Derives .expression) := by
  have hend : EndsWith [] fun left xs r ys =>
      ∃ o zs, OperatorAhead xs o zs ∧ AfterOperand left o zs r ys :=
    ⟨.nil, fun ys hys => hys, fun left ys hys =>
      ⟨left, none, ys, .inr ⟨rfl, rfl, hys.not_leadsWith⟩, .none⟩⟩
  rw [Reader.expression]
  refine Mends.position_bind fun start => ?_
  refine (ih.operand.bind (readsPhrases n).operand (Derives.moves (by decide))
    (fun left => Mends.operator?_bind fun o => ?_) hend).mono fun xs r ys => ?_
  · cases o with
    | none => exact mends_pure left _
    | some op => exact ih.operation left start op
  · rintro ⟨l, zs, hl, o, us, ⟨op, rfl, hleads⟩ | ⟨rfl, rfl, hgreedy⟩, hr⟩
    · cases hr with
      | some target hright => exact .binary hl hleads target hright
    · cases hr
      exact .alone hl hgreedy

theorem MendsPhrases.moreArguments (ih : MendsPhrases n) :
    (Reader.expression n >>= fun a => Reader.argumentsRest n >>= fun as =>
      Pure.pure (a :: as)).Mends fun xs as zs =>
        ∃ a ys bs, Derives .expression xs a ys ∧ Derives .argumentsRest ys bs zs ∧
          as = a :: bs := by
  have hend : EndsWith [")"] fun a xs as ys =>
      ∃ bs, Derives .argumentsRest xs bs ys ∧ as = a :: bs :=
    .closing (.inl rfl) fun a ys => ⟨_, _, .lastArgument, rfl⟩
  refine (ih.expression.bind (readsPhrases n).expression (Derives.moves (by decide))
    (fun a => ih.argumentsRest.map (a :: ·)) hend).mono ?_
  rintro xs as zs ⟨a, ys, ha, bs, hbs, rfl⟩
  exact ⟨a, ys, bs, ha, hbs, rfl⟩

theorem MendsPhrases.arguments_succ (ih : MendsPhrases n) :
    (Reader.arguments (n + 1)).Mends (Derives .arguments) := by
  rw [Reader.arguments]
  refine (Mends.ifSees (mends_pure [] fun xs as ys => as = [] ∧ ys = xs)
    ih.moreArguments).mono fun xs as ys => ?_
  rintro (⟨zs, rfl, rfl, rfl⟩ | ⟨a, us, bs, ha, hbs, rfl⟩)
  · exact .noArgument
  · exact .argument ha hbs

theorem MendsPhrases.argumentsRest_succ (ih : MendsPhrases n) :
    (Reader.argumentsRest (n + 1)).Mends (Derives .argumentsRest) := by
  have hclose : (expect ")" >>= fun _ => (Pure.pure [] : Reader (List Rule))).Mends
      fun xs as ys => ∃ zs, xs = ")" :: zs ∧ as = [] ∧ ys = zs :=
    .afterExpect ")" [] (by decide) (mends_pure [] _) .nil fun ys _ => ⟨[], rfl, rfl⟩
  rw [Reader.argumentsRest]
  refine (Mends.ifSees ih.moreArguments hclose).mono fun xs as ys => ?_
  rintro (⟨zs, rfl, a, us, bs, ha, hbs, rfl⟩ | ⟨zs, rfl, rfl, rfl⟩)
  · exact .nextArgument ha hbs
  · exact .lastArgument

inductive AfterCondition (c : Rule) : List String → Rule → List String → Prop
  | ifThen {xs ys : List String} {ss : List Rule} (body : Derives .block xs ss ys)
      (greedy : ys.head? ≠ some "else") : AfterCondition c (")" :: xs) (.ifThen c (.block ss)) ys
  | ifElse {xs ys zs : List String} {ss ts : List Rule} (body : Derives .block xs ss ("else" :: ys))
      (other : Derives .block ys ts zs) :
      AfterCondition c (")" :: xs) (.ifElse c (.block ss) (.block ts)) zs

/-- A conditional without `else` may end in front of anything that closes. -/
theorem afterCondition_of_closes {ys : List String} (h : Closes ys) (c : Rule) :
    AfterCondition c (")" :: "0" :: ys) (.ifThen c (.block [.number 0])) ys :=
  .ifThen h.derives_block (h.head?_ne (by decide) (by decide))

theorem MendsPhrases.branches (ih : MendsPhrases n) (c : Rule) :
    (do
      expect ")"
      let body ← Reader.block n
      if ← sees "else" then
        expect "else"
        return .ifElse c (.block body) (.block (← Reader.block n))
      else
        return .ifThen c (.block body) : Reader Rule).Mends (AfterCondition c) := by
  have helse : ∀ ss : List Rule, (sees "else" >>= fun b =>
      if b then expect "else" >>= fun _ => Reader.block n >>= fun ts =>
        Pure.pure (Rule.ifElse c (.block ss) (.block ts))
      else Pure.pure (.ifThen c (.block ss))).Mends fun xs r zs =>
        (∃ ys, xs = "else" :: ys ∧ ∃ ts, Derives .block ys ts zs ∧
          r = .ifElse c (.block ss) (.block ts)) ∨
        (xs.head? ≠ some "else" ∧ r = .ifThen c (.block ss) ∧ zs = xs) := fun ss =>
    .ifSees (ih.block.map fun ts => Rule.ifElse c (.block ss) (.block ts)) (mends_pure _ _)
  have hbody := ih.block.bind (readsPhrases n).block (Derives.moves (by decide)) helse
    ⟨.nil, fun ys hys => hys, fun ss ys hys =>
      ⟨_, .inr ⟨hys.head?_ne (by decide) (by decide), rfl, rfl⟩⟩⟩
  refine (hbody.afterExpect ")" ["0"] (by decide) (.stopgap (by decide) .nil) ?_).mono ?_
  · intro ys hys
    exact ⟨_, _, _, hys.derives_block, .inr ⟨hys.head?_ne (by decide) (by decide), rfl, rfl⟩⟩
  · rintro xs r zs ⟨ys, rfl, ss, us, hss, ⟨us, rfl, ts, hts, rfl⟩ | ⟨hgreedy, rfl, rfl⟩⟩
    · exact .ifElse hss hts
    · exact .ifThen hss hgreedy

/-- Behind `if` a parenthesis is demanded. It is no stopgap, so this is told apart from other
demands. -/
theorem Mends.ifSeesIf {p q : Reader α} {P Q : List String → α → List String → Prop}
    {vs : List String} (hp : p.Mends P) (hq : q.Mends Q) (hvs : AreTokens vs)
    (hreads : ∀ ys, Closes ys → ∃ a, P (vs ++ ys) a ys) :
    (sees "if" >>= fun b => if b then expect "if" >>= fun _ => expect "(" >>= fun _ => p
      else q).Mends fun xs a ys => (∃ zs, xs = "if" :: "(" :: zs ∧ P zs a ys) ∨ Q xs a ys := by
  intro ls stop
  have mended : ∀ {l : Lexeme} {ls : List Lexeme} {e : ParseError}, l.text = "if" →
      StopsAt e ls → MendedAt (fun xs a ys => (∃ zs, xs = "if" :: "(" :: zs ∧ P zs a ys) ∨
        Q xs a ys) (l :: ls) e := by
    intro l ls e hl hstops
    refine ⟨[l], ls, "(" :: vs, rfl, hstops, .mark (by decide) hvs, fun ys hys => ?_⟩
    obtain ⟨a, ha⟩ := hreads ys hys
    rw [List.map_cons, List.map_cons, hl]
    exact ⟨.opening, a, .inl ⟨_, rfl, ha⟩⟩
  cases ls with
  | nil =>
    rw [bind_of_ok (p := sees "if") (a := false) _ rfl]
    exact (hq [] stop).mono fun _ _ _ => .inr
  | cons l ls =>
    rw [bind_of_ok (p := sees "if") (a := l.text == "if") _ rfl]
    by_cases hl : l.text = "if"
    · rw [if_pos (by simpa using hl), bind_of_ok _ (expect_of_eq hl ls _)]
      cases ls with
      | nil =>
        rw [bind_of_error (p := expect "(") (e := .unexpectedEnd "(") _ rfl]
        exact .mended (mended hl (.unexpectedEnd "("))
      | cons m ls =>
        by_cases hm : m.text = "("
        · rw [bind_of_ok _ (expect_of_eq hm ls _)]
          refine (((hp ls stop).cons m).cons l).mono fun xs a ys => ?_
          rintro ⟨zs, rfl, us, rfl, h⟩
          exact .inl ⟨us, by rw [hl, hm], h⟩
        · rw [bind_of_error _ (expect_of_ne hm ls _)]
          exact .mended (mended hl (.expected "("))
    · rw [if_neg (by simpa using hl)]
      exact (hq (l :: ls) stop).mono fun _ _ _ => .inr

theorem MendsPhrases.statement_succ (ih : MendsPhrases n) :
    (Reader.statement (n + 1)).Mends (Derives .statement) := by
  have hend : EndsWith [")", "0"] AfterCondition :=
    ⟨.stopgap (by decide) (.stopgap (by decide) .nil), fun ys _ => .cons (.inl rfl) _,
      fun c ys hys => ⟨_, afterCondition_of_closes hys c⟩⟩
  have hcondition := ih.expression.bind (readsPhrases n).expression (Derives.moves (by decide))
    ih.branches hend
  have htokens : AreTokens ["0", ")", "0"] := .stopgap (by decide) hend.tokens
  rw [Reader.statement]
  refine (hcondition.ifSeesIf ih.expression htokens fun ys hys => ?_).mono fun xs r ys => ?_
  · have hzero : Derives .expression ("0" :: ")" :: "0" :: ys) (.number 0) (")" :: "0" :: ys) :=
      (Closes.cons (.inl rfl) _).derives_expression
    exact ⟨_, _, _, hzero, afterCondition_of_closes hys _⟩
  · rintro (⟨zs, rfl, c, us, hc, hbranches⟩ | h)
    · cases hbranches with
      | ifThen body greedy => exact .ifThen hc body greedy
      | ifElse body other => exact .ifElse hc body other
    · exact .plain h

/-- Every reader of phrases mends its faults, by one induction on the fuel. -/
theorem mendsPhrases (n : Nat) : MendsPhrases n := by
  induction n with
  | zero => constructor <;> exact mends_spent _
  | succ n ih =>
    exact ⟨ih.block_succ, ih.blockRest_succ, ih.statement_succ, ih.expression_succ,
      ih.operand_succ, ih.term_succ, ih.arguments_succ, ih.argumentsRest_succ⟩

def ReadsProgram (xs : List String) (ss : List Rule) (ys : List String) : Prop :=
  ys = [] → Derives .program xs ss []

/-- A program can be completed wherever reading it stops. -/
theorem mends_program (n : Nat) : (program n).Mends ReadsProgram := by
  induction n with
  | zero => exact mends_spent _
  | succ n ih =>
    have hend : EndsWith [] fun (ss : List Rule) xs b ys =>
        ∃ ts, ReadsProgram xs ts ys ∧ b = ss ++ ts := by
      refine ⟨.nil, fun ys hys => hys, fun ss ys _ => ⟨_, [], ?_, rfl⟩⟩
      rintro rfl
      exact .noStatement
    rw [program]
    refine .ifAtEnd (fun stop => .ok List.suffix_rfl) ?_
    refine ((mendsPhrases n).block.bind (readsPhrases n).block (Derives.moves (by decide))
      (fun ss => ih.map (ss ++ ·)) hend).mono ?_
    rintro xs _ zs ⟨ss, ys, hss, ts, hts, rfl⟩ rfl
    exact .statements hss (hts rfl)

end Reader

def ParseError.refusedAt? : ParseError → Option Position
  | .expected _ _ place | .invalidName _ _ place | .numberOutOfRange _ place => some place
  | .unclosed _ | .unexpectedEnd _ | .notAssignable _ _ => none

theorem StopsAt.head? {e : ParseError} {ls : List Lexeme} (h : StopsAt e ls) :
    ls.head?.map (·.start) = e.refusedAt? := by
  cases h <;> rfl

/-- The token texts go on to those of a rule. -/
def IsViable (xs : List String) : Prop :=
  ∃ us r, AreTokens us ∧ Rule.ofText (" ".intercalate (xs ++ us)) = .ok r

theorem isViable_of_derives {xs us : List String} {ss : List Rule} (hxs : AreTokens xs)
    (hus : AreTokens us) (h : Derives .program (xs ++ us) ss []) : IsViable xs := by
  have hcut := (hxs.append hus).laysOut_intercalate.cutInto
  exact ⟨us, .block ss, hus, ofText_eq_block_iff.2 ⟨xs ++ us, hcut, h⟩⟩

/-- Tokens of different places in a list start at different places in the text. -/
theorem index_eq_of_start_eq {lexemes : List Lexeme} (h : (lexemes.map (·.start)).Nodup)
    {i j : Nat} {l m : Lexeme} (hi : lexemes[i]? = some l) (hj : lexemes[j]? = some m)
    (hstart : l.start = m.start) : i = j := by
  have hlength : i < (lexemes.map (·.start)).length := by
    rw [List.length_map]
    exact (List.getElem?_eq_some_iff.1 hi).1
  refine (List.getElem?_inj hlength h).1 ?_
  rw [List.getElem?_map, List.getElem?_map, hi, hj, Option.map_some, Option.map_some, hstart]

/-- No two tokens of a text begin in the same place. -/
theorem nodup_starts_ofText (source : String) :
    ((Tape.ofText source).lexemes.map (·.start)).Nodup := by
  obtain ⟨pieces, last, hsplits, hlast | ⟨gap, body, rfl, hgap, hbody⟩⟩ :=
    exists_splits source.toList
  · rw [Tape.ofText_of_lastGap hsplits hlast]
    exact hsplits.nodup_starts []
  · rw [Tape.ofText_of_openString hsplits hgap hbody]
    exact hsplits.nodup_starts []

/-- The fault of a text with tokens up to its end stands behind tokens that go on to a rule, unless
it is for what the text assigns to. -/
theorem exists_viable_of_error {source : String} {e : ParseError} {stop : Position}
    (hstop : (Tape.ofText source).ending = .endOfInput stop)
    (h : Rule.ofText source = .error e) :
    (∃ front left, (Tape.ofText source).lexemes = front ++ left ∧ StopsAt e left ∧
      IsViable (front.map (·.text))) ∨ ∃ target place, e = .notAssignable target place := by
  have htokens := areTokens_ofText source
  rw [Rule.ofText_eq_error_iff_read, Tape.read_eq_error_iff] at h
  generalize Tape.ofText source = t at *
  obtain ⟨lexemes, ending⟩ := t
  cases hstop
  have hreply := Reader.mends_program (Reader.depthFor ⟨lexemes, .endOfInput stop⟩) lexemes stop
  rw [h] at hreply
  cases hreply with
  | notAssignable target place => exact .inr ⟨target, place, rfl⟩
  | mended h =>
    obtain ⟨front, left, us, rfl, hstops, hus, hreads⟩ := h
    obtain ⟨-, ss, hss⟩ := hreads [] .nil
    rw [List.append_nil] at hss
    rw [Tape.texts, List.map_append] at htokens
    have hfront : AreTokens (front.map (·.text)) := fun x hx =>
      htokens x (List.mem_append_left _ hx)
    exact .inl ⟨front, left, rfl, hstops, isViable_of_derives hfront hus (hss rfl)⟩

/-- A text that has tokens up to its end and is no rule is refused at a token, at its end, or for
what it assigns to. If it is refused at a token, the tokens before that one go on to a rule, and if
it is refused at its end, all of its tokens do. -/
theorem ofText_error_viable {source : String} {lexemes : List Lexeme} {e : ParseError}
    (htokens : (TokenStream.ofText source).drain.1 = .ok lexemes)
    (h : Rule.ofText source = .error e) :
    ((∃ (k : Nat) (l : Lexeme), lexemes[k]? = some l ∧ e.refusedAt? = some l.start) ∨
      (∃ what, e = .unexpectedEnd what) ∨ ∃ target place, e = .notAssignable target place) ∧
    (∀ (k : Nat) (l : Lexeme), lexemes[k]? = some l → e.refusedAt? = some l.start →
      IsViable ((lexemes.take k).map (·.text))) ∧
    (∀ what, e = .unexpectedEnd what → IsViable (lexemes.map (·.text))) := by
  rw [TokenStream.drain_ofText, Tape.lexemes?_eq_ok_iff] at htokens
  obtain ⟨⟨stop, hstop⟩, rfl⟩ := htokens
  have hnodup := nodup_starts_ofText source
  rcases exists_viable_of_error hstop h with ⟨front, left, hls, hstops, hviable⟩ |
    ⟨target, place, rfl⟩
  · rw [hls] at hnodup ⊢
    cases left with
    | nil =>
      cases hstops with
      | unexpectedEnd what =>
        rw [List.append_nil]
        exact ⟨.inr (.inl ⟨what, rfl⟩), nofun, fun _ _ => hviable⟩
    | cons l left =>
      have hplace : e.refusedAt? = some l.start := hstops.head?.symm
      have hl : (front ++ l :: left)[front.length]? = some l := by simp
      refine ⟨.inl ⟨front.length, l, hl, hplace⟩, ?_, ?_⟩
      · intro k m hm hstart
        have hsame : m.start = l.start := Option.some_inj.1 (hstart.symm.trans hplace)
        rwa [index_eq_of_start_eq hnodup hm hl hsame, List.take_left]
      · rintro what rfl
        cases hplace
  · exact ⟨.inr (.inr ⟨target, place, rfl⟩), nofun, nofun⟩

/-- The brace comes before the condition is closed. Up to there, the text goes on to a rule. -/
theorem ofText_error_viable_condition :
    ∃ lexemes, (TokenStream.ofText "if (f(a, 1) \x7b b").drain.1 = .ok lexemes ∧
      Rule.ofText "if (f(a, 1) \x7b b" = .error (.expected ")" "\x7b" ⟨1, 13⟩) ∧
      IsViable ["if", "(", "f", "(", "a", ",", "1", ")"] := by
  let lexemes : List Lexeme :=
    [⟨"if", ⟨1, 1⟩⟩, ⟨"(", ⟨1, 4⟩⟩, ⟨"f", ⟨1, 5⟩⟩, ⟨"(", ⟨1, 6⟩⟩, ⟨"a", ⟨1, 7⟩⟩, ⟨",", ⟨1, 8⟩⟩,
      ⟨"1", ⟨1, 10⟩⟩, ⟨")", ⟨1, 11⟩⟩, ⟨"\x7b", ⟨1, 13⟩⟩, ⟨"b", ⟨1, 15⟩⟩]
  have htokens : (TokenStream.ofText "if (f(a, 1) \x7b b").drain.1 = .ok lexemes := by
    decide +kernel
  have htape : Tape.ofText "if (f(a, 1) \x7b b" = ⟨lexemes, .endOfInput ⟨1, 16⟩⟩ := by
    decide +kernel
  have herror : Rule.ofText "if (f(a, 1) \x7b b" = .error (.expected ")" "\x7b" ⟨1, 13⟩) := by
    rw [Rule.ofText, htape]
    rfl
  obtain ⟨-, htoken, -⟩ := ofText_error_viable htokens herror
  exact ⟨lexemes, htokens, herror, htoken 8 ⟨"\x7b", ⟨1, 13⟩⟩ rfl rfl⟩

end ChordRules
