import Lox.Item.Reader

/-!
What can stand between the delimiters of strings and of block comments.

Both are languages of their own, without a look at the text behind them. A text splits in at most
one way into a member of the language and what follows it, and the readers find that split.
-/

set_option autoImplicit false
set_option relaxedAutoImplicit false

namespace Lox.Item

/-- The contents of strings. A backslash takes the character behind it along, whatever it is. -/
inductive StringContent : Text → Prop
  | nil : StringContent []
  | plain {c : Char} {content : Text} (noQuote : c ≠ '"') (noBackslash : c ≠ '\\')
      (more : StringContent content) : StringContent (c :: content)
  | escaped {c : Char} {content : Text} (more : StringContent content) :
      StringContent ('\\' :: c :: content)

/-- The parts of block comments behind their openings, up to and with their own closings. -/
inductive CommentBody : Text → Prop
  | closing : CommentBody ['*', '/']
  | nested {inner outer : Text} (inside : CommentBody inner) (more : CommentBody outer) :
      CommentBody ('/' :: '*' :: (inner ++ outer))
  | plain {c : Char} {body : Text} (noOpening : c = '/' → body.head? ≠ some '*')
      (noClosing : c = '*' → body.head? ≠ some '/') (more : CommentBody body) :
      CommentBody (c :: body)

/-- So many bodies of block comments, one after the other. -/
inductive CommentBodies : Nat → Text → Prop
  | none : CommentBodies 0 []
  | cons {depth : Nat} {body bodies : Text} (first : CommentBody body)
      (more : CommentBodies depth bodies) : CommentBodies (depth + 1) (body ++ bodies)

section string

variable {text content rest : Text}

private theorem stringBody?_of_content (whole : StringContent content) :
    stringBody? (content ++ '"' :: rest) = some (content, rest) := by
  induction whole with
  | nil => simp [stringBody?]
  | @plain c content noQuote noBackslash more ih =>
      have step : stringBody? (c :: (content ++ '"' :: rest)) =
          (stringBody? (content ++ '"' :: rest)).map (prepend [c]) := by
        rw [stringBody?.eq_def]
        split <;> simp_all
      rw [List.cons_append, step, ih]
      rfl
  | @escaped c content more ih =>
      rw [List.cons_append, List.cons_append, stringBody?, ih]
      rfl

private theorem content_of_stringBody? (read : stringBody? text = some (content, rest)) :
    StringContent content := by
  fun_induction stringBody? text generalizing content with
  | case1 => contradiction
  | case2 behind =>
      obtain ⟨rfl, -⟩ := Prod.mk.inj (Option.some.inj read)
      exact .nil
  | case3 c behind ih =>
      obtain ⟨⟨inner, last⟩, inside, joined⟩ := Option.map_eq_some_iff.mp read
      obtain ⟨rfl, rfl⟩ := Prod.mk.inj joined
      exact .escaped (ih inside)
  | case4 c behind noQuote noEscape ih =>
      obtain ⟨⟨inner, last⟩, inside, joined⟩ := Option.map_eq_some_iff.mp read
      obtain ⟨rfl, rfl⟩ := Prod.mk.inj joined
      refine .plain noQuote ?_ (ih inside)
      -- A backslash at the very end escapes nothing, but then no quote follows either.
      intro backslash
      cases behind with
      | nil => contradiction
      | cons next behind => exact noEscape next behind backslash rfl

theorem stringBody?_eq_some_iff :
    stringBody? text = some (content, rest) ↔
      StringContent content ∧ text = content ++ '"' :: rest := by
  constructor
  · intro read
    exact ⟨content_of_stringBody? read, (append_of_stringBody? read).symm⟩
  · rintro ⟨whole, rfl⟩
    exact stringBody?_of_content whole

theorem stringBody?_eq_none_iff :
    stringBody? text = none ↔
      ∀ content rest, text = content ++ '"' :: rest → ¬ StringContent content := by
  constructor
  · rintro failed content rest rfl whole
    rw [stringBody?_of_content whole] at failed
    contradiction
  · intro never
    cases read : stringBody? text with
    | none => rfl
    | some split =>
        obtain ⟨whole, split⟩ := stringBody?_eq_some_iff.mp read
        exact absurd whole (never _ _ split)

end string

section comment

variable {text body rest : Text} {depth : Nat}

theorem CommentBody.ne_nil (whole : CommentBody body) : body ≠ [] := by
  cases whole <;> exact List.cons_ne_nil _ _

private theorem prepend_prepend (front back : Text) (read : Option (Text × Text)) :
    (read.map (prepend back)).map (prepend front) = read.map (prepend (front ++ back)) := by
  cases read <;> simp [prepend]

private theorem commentBody?_append (whole : CommentBody body) (depth : Nat) (rest : Text) :
    commentBody? (depth + 1) (body ++ rest) = (commentBody? depth rest).map (prepend body) := by
  induction whole generalizing depth rest with
  | closing => simp [commentBody?]
  | @nested inner outer inside more insideIh moreIh =>
      rw [List.cons_append, List.cons_append, commentBody?, List.append_assoc, insideIh, moreIh,
        prepend_prepend, prepend_prepend]
      simp
  | @plain c body noOpening noClosing more ih =>
      have step : commentBody? (depth + 1) (c :: (body ++ rest)) =
          (commentBody? (depth + 1) (body ++ rest)).map (prepend [c]) := by
        obtain ⟨next, tail, rfl⟩ := List.exists_cons_of_ne_nil more.ne_nil
        rw [commentBody?.eq_def]
        split <;> simp_all
      rw [List.cons_append, step, ih, prepend_prepend]
      rfl

private theorem bodies_of_commentBody? (read : commentBody? depth text = some (body, rest)) :
    CommentBodies depth body := by
  fun_induction commentBody? depth text generalizing body with
  | case1 text =>
      obtain ⟨rfl, -⟩ := Prod.mk.inj (Option.some.inj read)
      exact .none
  | case2 => contradiction
  | case3 depth behind ih =>
      obtain ⟨⟨tail, last⟩, inside, joined⟩ := Option.map_eq_some_iff.mp read
      obtain ⟨rfl, rfl⟩ := Prod.mk.inj joined
      cases ih inside with
      | @cons _ inner _ first more =>
          cases more with
          | @cons _ outer others second more =>
              have whole := CommentBodies.cons (.nested first second) more
              simpa using whole
  | case4 depth behind ih =>
      obtain ⟨⟨tail, last⟩, inside, joined⟩ := Option.map_eq_some_iff.mp read
      obtain ⟨rfl, rfl⟩ := Prod.mk.inj joined
      exact .cons .closing (ih inside)
  | case5 depth c behind noOpening noClosing ih =>
      obtain ⟨⟨tail, last⟩, inside, joined⟩ := Option.map_eq_some_iff.mp read
      obtain ⟨rfl, rfl⟩ := Prod.mk.inj joined
      have split := append_of_commentBody? inside
      cases ih inside with
      | @cons _ body others first more =>
          obtain ⟨next, tail, rfl⟩ := List.exists_cons_of_ne_nil first.ne_nil
          have whole : CommentBody (c :: next :: tail) := by
            refine .plain ?_ ?_ first
            · rintro slash star
              obtain rfl := Option.some.inj star
              exact noOpening _ slash split.symm
            · rintro star slash
              obtain rfl := Option.some.inj slash
              exact noClosing _ star split.symm
          change CommentBodies (depth + 1) (c :: next :: tail ++ others)
          exact .cons whole more

theorem commentBody?_eq_some_iff :
    commentBody? 1 text = some (body, rest) ↔ CommentBody body ∧ text = body ++ rest := by
  constructor
  · intro read
    refine ⟨?_, (append_of_commentBody? read).symm⟩
    cases bodies_of_commentBody? read with
    | @cons _ body others first more =>
        cases more
        rw [List.append_nil]
        exact first
  · rintro ⟨whole, rfl⟩
    rw [commentBody?_append whole, commentBody?]
    simp [prepend]

theorem commentBody?_eq_none_iff :
    commentBody? 1 text = none ↔ ∀ body rest, text = body ++ rest → ¬ CommentBody body := by
  constructor
  · rintro failed body rest rfl whole
    rw [commentBody?_eq_some_iff.mpr ⟨whole, rfl⟩] at failed
    contradiction
  · intro never
    cases read : commentBody? 1 text with
    | none => rfl
    | some split =>
        obtain ⟨whole, split⟩ := commentBody?_eq_some_iff.mp read
        exact absurd whole (never _ _ split)

end comment

end Lox.Item
