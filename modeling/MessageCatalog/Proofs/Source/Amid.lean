import MessageCatalog.Proofs.Source.Position

/-! Lexical steps look at no more than two characters, so they are the same where a text stands between
two others. -/

namespace MessageCatalog.Source

/-- A position that is counted from the start of a text that stands before. -/
def Position.after (front : List Char) (position : Position) : Position :=
  ⟨position.offset + byteLength front, position.line + front.count '\n'⟩

/-- A malformed construct behind a text. -/
def Malformed.after (front : List Char) (construct : Malformed) : Malformed :=
  ⟨construct.defect, construct.position.after front⟩

/-- A fault that is met behind a text. -/
def ScanError.after (front : List Char) : ScanError → ScanError
  | malformed construct => .malformed (construct.after front)
  | unclosed context line => .unclosed context (line + front.count '\n')
  | stalled position => .stalled (position.after front)

/-- A call behind a text. -/
def Call.after (front : List Char) (call : Call) : Call :=
  { call with start := call.start.after front, stop := call.stop.after front }

/-- A point of a text that stands between two others. -/
def Cursor.amid (front behind : List Char) (cursor : Cursor) : Cursor :=
  ⟨cursor.before.or front.getLast?, cursor.rest ++ behind, cursor.position.after front⟩

/-- A state of a text that stands between two others. -/
def State.amid (front behind : List Char) (state : State) : State :=
  ⟨state.cursor.amid front behind, state.stack⟩

/-- What follows a text is not looked at where two characters are left, nor at a last line feed. -/
def Firm (behind rest : List Char) : Prop :=
  behind = [] ∨ 2 ≤ rest.length ∨ rest = ['\n']

/-- Markers that are told apart by two characters; those that begin with a line feed end with it. -/
def Short (marker : List Char) : Prop :=
  marker.length ≤ 2 ∧ (marker.head? = some '\n' → marker.length = 1)

/-- The openings are short. -/
theorem Context.opening_short (context : Context) : Short context.opening := by
  cases context with
  | interpolation kind => cases kind <;> exact ⟨by decide, by decide⟩
  | _ => exact ⟨by decide, by decide⟩

/-- The closings are short. -/
theorem Context.closing_short (context : Context) : Short context.closing := by
  cases context with
  | interpolation kind => cases kind <;> exact ⟨by decide, by decide⟩
  | _ => exact ⟨by decide, by decide⟩

section

variable {behind rest : List Char}

/-- Firm texts begin with two characters or are a line feed, when something follows them. -/
theorem Firm.cases (firm : Firm behind rest) :
    behind = [] ∨ rest = ['\n'] ∨ ∃ c d tail, rest = c :: d :: tail := by
  rcases firm with last | two | lineFeed
  · exact .inl last
  · match rest, two with
    | c :: d :: tail, _ => exact .inr (.inr ⟨c, d, tail, rfl⟩)
  · exact .inr (.inl lineFeed)

/-- Short markers do not depend on what follows a text. -/
theorem isPrefixOf_of_firm (firm : Firm behind rest) {marker : List Char} (short : Short marker) :
    marker.isPrefixOf (rest ++ behind) = marker.isPrefixOf rest := by
  -- A marker of two characters is compared with two characters of the text, or fails at a line feed.
  obtain ⟨most, lineFeed⟩ := short
  rcases firm.cases with rfl | rfl | ⟨c, d, tail, rfl⟩
  · rw [List.append_nil]
  · match marker, most, lineFeed with
    | [], _, _ => rfl
    | [x], _, _ => simp [List.isPrefixOf]
    | [x, y], _, lineFeed =>
      have other : x ≠ '\n' := by simpa using lineFeed
      simp [List.isPrefixOf, other]
  · match marker, most with
    | [], _ => rfl
    | [x], _ => simp [List.isPrefixOf]
    | [x, y], _ => simp [List.isPrefixOf]

/-- The comment that opens does not depend on what follows a text. -/
theorem ofComment?_of_firm (firm : Firm behind rest) :
    Context.ofComment? (rest ++ behind) = Context.ofComment? rest := by
  -- At most two characters are looked at, and a line feed begins no comment.
  rcases firm.cases with rfl | rfl | ⟨c, d, tail, rfl⟩
  · rw [List.append_nil]
  · rfl
  · simp only [List.cons_append]
    unfold Context.ofComment?
    split <;> simp_all

/-- Two characters are left behind a backslash, when something follows. -/
theorem Firm.two {tail : List Char} (firm : Firm behind ('\\' :: tail)) :
    behind = [] ∨ 2 ≤ ('\\' :: tail).length := by
  rcases firm with last | two | lineFeed
  · exact .inl last
  · exact .inr two
  · simp at lineFeed

end

section

variable (front behind : List Char)

/-- Positions past a character are counted from the same start. -/
theorem past_after (position : Position) (c : Char) :
    (position.after front).past c = (position.past c).after front := by
  -- What is counted past the character is added to what was counted before.
  simp only [Position.after, Position.past]
  split <;> simp <;> omega

variable {front behind}

/-- Moving over one character is the same, unless the text ends where others follow. -/
theorem next_amid {cursor : Cursor} (fits : behind = [] ∨ 1 ≤ cursor.rest.length) :
    (cursor.amid front behind).next = cursor.next.amid front behind := by
  -- At the end nothing moves, which is the same when nothing follows.
  obtain ⟨before, rest, position⟩ := cursor
  cases rest with
  | nil =>
    have last : behind = [] := fits.resolve_right (by simp)
    simp [Cursor.amid, Cursor.next, last]
  | cons c rest => simp [Cursor.amid, Cursor.next, past_after]

/-- Moving on is the same within the text. -/
theorem advance_amid {n : Nat} {cursor : Cursor} (fits : behind = [] ∨ n ≤ cursor.rest.length) :
    (cursor.amid front behind).advance n = (cursor.advance n).amid front behind := by
  -- Move by move, as long as characters are left.
  induction n generalizing cursor with
  | zero => rfl
  | succ n ih =>
    have rest : cursor.next.rest.length = cursor.rest.length - 1 := by
      have moved := Cursor.advance_rest 1 cursor
      rw [Cursor.advance, Cursor.advance] at moved
      simp [moved]
    rw [Cursor.advance, next_amid (fits.imp_right (by omega)), ih (fits.imp_right (by omega))]
    rfl

variable (front behind) (state : State)

@[simp] theorem amid_rest : (state.amid front behind).rest = state.rest ++ behind := rfl

@[simp] theorem amid_stack : (state.amid front behind).stack = state.stack := rfl

@[simp] theorem amid_top : (state.amid front behind).top = state.top := rfl

@[simp] theorem amid_depth : (state.amid front behind).depth = state.depth := rfl

@[simp] theorem amid_isHidden : (state.amid front behind).isHidden = state.isHidden := rfl

variable {front behind state}

/-- Moving on within the text. -/
theorem amid_advance {n : Nat} (fits : behind = [] ∨ n ≤ state.rest.length) :
    (state.amid front behind).advance n = (state.advance n).amid front behind := by
  rw [State.advance, State.advance, State.amid, advance_amid fits]
  rfl

/-- Entering a context whose opening is a part of the text. -/
theorem amid_enter {context : Context} (stands : context.opening.isPrefixOf state.rest = true) :
    (state.amid front behind).enter context = (state.enter context).amid front behind := by
  have fits := (List.isPrefixOf_iff_prefix.1 stands).length_le
  rw [State.enter, State.enter, State.amid, advance_amid (.inr fits)]
  rfl

/-- Leaving a context whose closing is a part of the text. -/
theorem amid_leave {context : Context} (stands : context.closing.isPrefixOf state.rest = true) :
    (state.amid front behind).leave context = (state.leave context).amid front behind := by
  have fits := (List.isPrefixOf_iff_prefix.1 stands).length_le
  rw [State.leave, State.leave, State.amid, advance_amid (.inr fits)]
  rfl

/-- The text between two points is the same. -/
theorem textTo_amid (first last : Cursor) :
    (first.amid front behind).textTo (last.amid front behind) = first.textTo last := by
  -- What follows the text is left behind both points, so it cancels out.
  have lengths : (first.rest ++ behind).length - (last.rest ++ behind).length =
      first.rest.length - last.rest.length := by
    simp only [List.length_append]
    omega
  simp only [Cursor.textTo, Cursor.amid, lengths]
  exact List.take_append_of_le_length (Nat.sub_le _ _)

variable {c : Char} {tail : List Char}

/-- A step in a literal is the same. -/
theorem stepInQuote_amid (left : state.rest = c :: tail) (firm : Firm behind state.rest)
    (quote : Context) :
    stepInQuote (state.amid front behind) quote c =
      (stepInQuote state quote c).amid front behind := by
  have one : behind = [] ∨ 1 ≤ state.rest.length := .inr (by simp [left])
  unfold stepInQuote
  by_cases escape : c = '\\'
  · -- The escaped character is a part of the text too.
    rw [if_pos escape, if_pos escape]
    rw [left, escape] at firm
    exact amid_advance (by simpa [left, escape] using firm.two)
  · rw [if_neg escape, if_neg escape, amid_rest, isPrefixOf_of_firm firm quote.closing_short]
    -- The literal ends here, or code may be embedded, or one character is moved over.
    by_cases closes : quote.closing.isPrefixOf state.rest = true
    · rw [if_pos closes, if_pos closes, amid_leave closes]
    · rw [if_neg closes, if_neg closes]
      -- The embedding that begins is the same, as its opening is a short marker.
      have openings : (fun kind : Interpolation => kind.opening.isPrefixOf (state.rest ++ behind)) =
          fun kind => kind.opening.isPrefixOf state.rest :=
        funext fun kind => isPrefixOf_of_firm firm (Context.interpolation kind).opening_short
      rw [openings]
      dsimp only
      split
      · rename_i kind found
        have stands : kind.opening.isPrefixOf state.rest = true := by
          by_cases template : quote = .backtick
          · rw [if_pos template] at found
            simpa using List.find?_some found
          · simp [template] at found
        have entered : (state.amid front behind).enter (.interpolation kind) =
            (state.enter (.interpolation kind)).amid front behind := amid_enter stands
        exact entered
      · exact amid_advance one

/-- A step in a comment is the same. -/
theorem stepInComment_amid (left : state.rest = c :: tail) (firm : Firm behind state.rest)
    (comment : Context) :
    stepInComment (state.amid front behind) comment =
      (stepInComment state comment).amid front behind := by
  -- The closing is a short marker, and otherwise one character is moved over.
  unfold stepInComment
  rw [amid_rest, isPrefixOf_of_firm firm comment.closing_short]
  by_cases closes : comment.closing.isPrefixOf state.rest = true
  · rw [if_pos closes, if_pos closes, amid_leave closes]
  · rw [if_neg closes, if_neg closes]
    exact amid_advance (.inr (by simp [left]))

/-- An embedding ends at the same points. -/
theorem closingInterpolation?_amid (firm : Firm behind state.rest) :
    closingInterpolation? (state.amid front behind) = closingInterpolation? state := by
  -- The innermost context is the same, and its closing is a short marker.
  unfold closingInterpolation?
  rw [amid_top, amid_rest]
  split
  · rename_i kind innermost
    have closes : kind.closing.isPrefixOf (state.rest ++ behind) =
        kind.closing.isPrefixOf state.rest :=
      isPrefixOf_of_firm firm (Context.interpolation kind).closing_short
    rw [closes]
  · rfl

end

/-- A reading of a longer text is the one of the text in its midst, seen from there, unless that one
comes to the end of its text where a context is open and others follow. What it comes to has a
property. -/
def Carries {α β : Type} (front behind : List Char) (lift : α → β) (property : α → Prop)
    (short : Except ScanError α) (long : Except ScanError β) : Prop :=
  match short with
  | .ok value => long = .ok (lift value) ∧ property value
  | .error fault => long = .error (fault.after front) ∨
      (behind ≠ [] ∧ ∃ context line, fault = .unclosed context line)

section

variable {front behind : List Char} {α β γ δ : Type} {lift : α → β} {lift' : γ → δ}
  {property weaker : α → Prop} {property' : γ → Prop}

/-- Readings that come to values of which one is the other, seen from the longer text. -/
theorem Carries.of_ok {value : α} {long : Except ScanError β} (same : long = .ok (lift value))
    (holds : property value) : Carries front behind lift property (.ok value) long :=
  ⟨same, holds⟩

/-- Readings that carry over go on to readings that do. -/
theorem Carries.bind {short : Except ScanError α} {long : Except ScanError β}
    {short' : α → Except ScanError γ} {long' : β → Except ScanError δ}
    (carries : Carries front behind lift property short long)
    (goesOn : ∀ value, short = .ok value → property value →
      Carries front behind lift' property' (short' value) (long' (lift value))) :
    Carries front behind lift' property' (short >>= short') (long >>= long') := by
  -- A fault stops both readings, and a value makes both go on.
  cases short with
  | ok value =>
    obtain ⟨rfl, holds⟩ := carries
    exact goesOn value rfl holds
  | error fault =>
    rcases carries with rfl | unclosed
    · exact .inl rfl
    · exact .inr unclosed

/-- What is read has every property that follows from what is known of it. -/
theorem Carries.imp {short : Except ScanError α} {long : Except ScanError β}
    (carries : Carries front behind lift property short long)
    (implies : ∀ value, short = .ok value → property value → weaker value) :
    Carries front behind lift weaker short long := by
  cases short with
  | ok value => exact ⟨carries.1, implies value rfl carries.2⟩
  | error fault => exact carries

end

section

variable {front behind : List Char} {state : State}

/-- Steps in code carry over. -/
theorem carries_stepInCode {c : Char} {tail : List Char} (left : state.rest = c :: tail)
    (firm : Firm behind state.rest) :
    Carries front behind (State.amid front behind) (fun _ => True) (stepInCode state c)
      (stepInCode (state.amid front behind) c) := by
  unfold stepInCode
  rw [closingInterpolation?_amid firm, amid_rest, ofComment?_of_firm firm, amid_top]
  -- Each branch is chosen by markers that are the same in both texts.
  cases closing : closingInterpolation? state with
  | some context =>
    obtain ⟨-, stands⟩ := stands_of_closingInterpolation? closing
    exact .of_ok (congrArg _ (amid_leave (List.isPrefixOf_iff_prefix.2 stands))) trivial
  | none =>
    dsimp only
    cases opening : (Context.ofQuote? c).or (Context.ofComment? state.rest) with
    | some context =>
      have stands := List.isPrefixOf_iff_prefix.2 (opening_ofMarker left opening)
      exact .of_ok (congrArg _ (amid_enter stands)) trivial
    | none =>
      dsimp only
      -- A parenthesis opens one more list, or closes one if it is the innermost context.
      by_cases opens : c = '('
      · rw [if_pos opens, if_pos opens]
        have stands : Context.paren.opening.isPrefixOf state.rest = true := by
          simp [left, opens, Context.opening]
        exact .of_ok (congrArg _ (amid_enter stands)) trivial
      · rw [if_neg opens, if_neg opens]
        by_cases closes : c = ')'
        · rw [if_pos closes, if_pos closes]
          by_cases matching : state.top = some .paren
          · rw [if_pos matching, if_pos matching]
            have stands : Context.paren.closing.isPrefixOf state.rest = true := by
              simp [left, closes, Context.closing]
            exact .of_ok (congrArg _ (amid_leave stands)) trivial
          · rw [if_neg matching, if_neg matching]
            exact .inl rfl
        · rw [if_neg closes, if_neg closes]
          -- What is no marker is moved over.
          exact .of_ok (congrArg _ (amid_advance (.inr (by simp [left])))) trivial

/-- Lexical steps carry over where text is left. -/
theorem carries_stepLexical_of_firm (more : state.rest ≠ []) (firm : Firm behind state.rest) :
    Carries front behind (Option.map (State.amid front behind)) (fun _ => True)
      (stepLexical state) (stepLexical (state.amid front behind)) := by
  obtain ⟨c, tail, left⟩ := List.exists_cons_of_ne_nil more
  have left' : (state.amid front behind).rest = c :: (tail ++ behind) := by
    rw [amid_rest, left, List.cons_append]
  have inCode : Carries front behind (Option.map (State.amid front behind)) (fun _ => True)
      ((stepInCode state c).map some) ((stepInCode (state.amid front behind) c).map some) :=
    (carries_stepInCode left firm).bind fun next _ _ => .of_ok rfl trivial
  unfold stepLexical
  rw [left, left', amid_top]
  dsimp only
  -- The innermost context tells which of the three steps is taken.
  cases state.top with
  | none => exact inCode
  | some context =>
    dsimp only
    -- In a literal or a comment, nothing can fail.
    by_cases quote : context.isQuote
    · rw [if_pos quote, if_pos quote, stepInQuote_amid left firm]
      exact .of_ok rfl trivial
    · rw [if_neg quote, if_neg quote]
      by_cases comment : context.isComment
      · rw [if_pos comment, if_pos comment, stepInComment_amid left firm]
        exact .of_ok rfl trivial
      · rw [if_neg comment, if_neg comment]
        exact inCode

/-- Lexical steps carry over, unless the text ends well where others follow. -/
theorem carries_stepLexical (front : List Char) (firm : state.rest ≠ [] → Firm behind state.rest)
    (goesOn : behind = [] ∨ stepLexical state ≠ .ok none) :
    Carries front behind (Option.map (State.amid front behind)) (fun _ => True)
      (stepLexical state) (stepLexical (state.amid front behind)) := by
  -- At the end of the text it matters whether something follows.
  by_cases ended : state.rest = []
  · by_cases last : behind = []
    · -- Both texts end here, in the same contexts.
      subst last
      have ended' : (state.amid front []).rest = [] := by rw [amid_rest, ended, List.append_nil]
      rw [stepLexical_ended ended, stepLexical_ended ended', finish, finish, amid_stack]
      split
      · exact .inl rfl
      · exact .of_ok rfl trivial
    · -- The text ends inside a context, and what the longer one does there is left open.
      have unfinished := goesOn.resolve_left last
      rw [stepLexical_ended ended, finish] at unfinished ⊢
      split at unfinished
      · exact .inr ⟨last, _, _, rfl⟩
      · exact absurd rfl unfinished
  · exact carries_stepLexical_of_firm ended (firm ended)

end

end MessageCatalog.Source
