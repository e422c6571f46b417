import Lox.Proofs.Item.Lookahead

/-!
Comments and unexpected characters are as good as blanks.

Where they are written as spaces, one for each byte, every token and every other error stays where
it was. Line feeds are kept, so that lines do not change either. The items in front of such spaces
end where they did, as none of them goes on with a comment or with an unexpected character.
-/

set_option autoImplicit false
set_option relaxedAutoImplicit false

namespace Lox

/-- A text as blanks of the same size, with its line feeds. -/
def Text.blanked (text : Text) : Text :=
  text.flatMap fun c => if c = '\n' then [c] else List.replicate c.utf8Size ' '

def ScanError.isUnexpected (error : ScanError) : Bool :=
  match error.problem with
  | .unexpectedCharacter _ => true
  | _ => false

section blanked

variable {c : Char} {text : Text}

private theorem Text.blanked_cons (c : Char) (text : Text) :
    blanked (c :: text) =
      (if c = '\n' then [c] else List.replicate c.utf8Size ' ') ++ blanked text := rfl

private theorem Text.exists_blanked_cons (inside : c ≠ '\n') (text : Text) :
    ∃ more, blanked (c :: text) = ' ' :: more := by
  obtain ⟨size, positive⟩ : ∃ size, c.utf8Size = size + 1 :=
    Nat.exists_eq_add_one.mpr (Char.utf8Size_pos c)
  rw [blanked_cons, if_neg inside, positive, List.replicate_succ, List.cons_append]
  exact ⟨_, rfl⟩

private theorem Text.mem_blanks_of_mem_blanked (member : c ∈ blanked text) : c ∈ Item.blanks := by
  obtain ⟨d, -, own⟩ := List.mem_flatMap.mp member
  split at own
  · rename_i feed
    rw [feed, List.mem_singleton] at own
    rw [own]
    decide
  · obtain rfl := List.eq_of_mem_replicate own
    decide

private theorem Place.after_replicate_space (place : Place) (count : Nat) :
    place.after (List.replicate count ' ') = ⟨place.line, place.offset + count⟩ := by
  induction count generalizing place with
  | zero => rfl
  | succ count ih =>
      have step : place.step ' ' = ⟨place.line, place.offset + 1⟩ := rfl
      rw [List.replicate_succ, after_cons, step, ih, Nat.add_assoc, Nat.add_comm 1 count]

private theorem Place.after_blanked (place : Place) (text : Text) :
    place.after text.blanked = place.after text := by
  induction text generalizing place with
  | nil => rfl
  | cons c text ih =>
      rw [Text.blanked_cons, after_append, ih, after_cons]
      split
      · rfl
      · rename_i inside
        rw [after_replicate_space, step, if_neg inside]

end blanked

namespace Item

/-- Comments that are closed, and characters that begin no item. -/
def isNoise : Item → Bool
  | lineComment _ | blockComment _ | stray _ => true
  | _ => false

/-- A text in which the noise that starts at the chosen places is written as blanks. -/
def masked (chosen : Place → Bool) (source : Text) : Text :=
  (locate .start (ofText source)).flatMap fun (place, item) =>
    if chosen place && item.isNoise then item.text.blanked else item.text

def mask (chosen : Place → Bool) (place : Place) (item : Item) : List Item :=
  if chosen place && item.isNoise then item.text.blanked.map blank else [item]

def maskAll (chosen : Place → Bool) (place : Place) (items : List Item) : List Item :=
  (locate place items).flatMap fun (place, item) => mask chosen place item

variable {chosen : Place → Bool} {place : Place} {item : Item} {items : List Item}
variable {text rest : Text}

section blanks

private theorem flatMap_text_map_blank (text : Text) :
    (text.map blank).flatMap Item.text = text := by
  induction text with
  | nil => rfl
  | cons c text ih =>
      rw [List.map_cons, List.flatMap_cons, ih]
      rfl

private theorem fitTogether_map_blank (inside : ∀ c ∈ text, c ∈ blanks) (rest : Text) :
    FitTogether rest (text.map blank) := by
  induction text with
  | nil => exact .nil
  | cons c text ih =>
      have more := ih fun d member => inside d (.tail _ member)
      exact .cons (.blank (inside c List.mem_cons_self)) more

private theorem seenFrom_map_blank {α : Type} {view : Place → Item → Option α}
    (silent : ∀ place c, view place (.blank c) = none) (place : Place) (text : Text) :
    seenFrom view place (text.map blank) = [] := by
  induction text generalizing place with
  | nil => rfl
  | cons c text ih =>
      rw [List.map_cons, seenFrom_cons, silent, ih]
      rfl

end blanks

section mask

private theorem maskAll_cons (chosen : Place → Bool) (place : Place) (item : Item)
    (items : List Item) :
    maskAll chosen place (item :: items) =
      mask chosen place item ++ maskAll chosen (place.after item.text) items := rfl

private theorem flatMap_text_mask (chosen : Place → Bool) (place : Place) (item : Item) :
    (mask chosen place item).flatMap Item.text =
      if chosen place && item.isNoise then item.text.blanked else item.text := by
  rw [mask]
  split
  · exact flatMap_text_map_blank _
  · exact List.flatMap_singleton _ _

private theorem flatMap_text_maskAll (chosen : Place → Bool) (source : Text) :
    (maskAll chosen .start (ofText source)).flatMap Item.text = masked chosen source := by
  rw [maskAll, masked, List.flatMap_assoc]
  congr 1
  funext ⟨place, item⟩
  exact flatMap_text_mask chosen place item

private theorem after_mask (chosen : Place → Bool) (place : Place) (item : Item) :
    place.after ((mask chosen place item).flatMap Item.text) = place.after item.text := by
  rw [flatMap_text_mask]
  split
  · exact place.after_blanked item.text
  · rfl

private theorem after_maskAll (chosen : Place → Bool) (place : Place) (items : List Item) :
    place.after ((maskAll chosen place items).flatMap Item.text) =
      place.after (items.flatMap Item.text) := by
  induction items generalizing place with
  | nil => rfl
  | cons item items ih =>
      rw [maskAll_cons, List.flatMap_append, List.flatMap_cons, Place.after_append,
        Place.after_append, after_mask, ih]

private theorem seenFrom_maskAll {α : Type} {view : Place → Item → Option α} {keep : α → Bool}
    (silent : ∀ place c, view place (.blank c) = none)
    (kept : ∀ place item, (view place item).toList.filter keep =
      if chosen place && item.isNoise then [] else (view place item).toList)
    (place : Place) (items : List Item) :
    seenFrom view place (maskAll chosen place items) =
      (seenFrom view place items).filter keep := by
  have single (place : Place) (item : Item) :
      seenFrom view place (mask chosen place item) = (view place item).toList.filter keep := by
    rw [mask, kept]
    split
    · exact seenFrom_map_blank silent place _
    · rw [seenFrom_cons]
      exact List.append_nil _
  induction items generalizing place with
  | nil => rfl
  | cons item items ih =>
      rw [maskAll_cons, seenFrom_append, seenFrom_cons, single, after_mask, ih, List.filter_append]

private theorem token?_of_noise (noise : item.isNoise = true) (place : Place) :
    item.token? place = none := by
  cases item with
  | lineComment | blockComment | stray => rfl
  | _ => contradiction

private theorem tokensFrom_maskAll (chosen : Place → Bool) (place : Place) (items : List Item) :
    tokensFrom place (maskAll chosen place items) = tokensFrom place items := by
  have every (list : List Token) : list.filter (fun _ => true) = list :=
    List.filter_eq_self.mpr fun _ _ => rfl
  have masked := @seenFrom_maskAll chosen Token (fun place item => item.token? place)
    (fun _ => true) (fun _ _ => rfl) ?_ place items
  · rw [every] at masked
    exact masked
  · intro place item
    rw [every]
    split
    · rename_i hidden
      rw [token?_of_noise (Bool.and_eq_true_iff.mp hidden).2]
      rfl
    · rfl

/-- The errors that are left when the noise at the chosen places is gone. -/
def stays (chosen : Place → Bool) (error : ScanError) : Bool :=
  !(chosen error.place && error.isUnexpected)

private theorem filter_error? (chosen : Place → Bool) (place : Place) (item : Item) :
    (item.error? place).toList.filter (stays chosen) =
      if chosen place && item.isNoise then [] else (item.error? place).toList := by
  cases item with
  | stray c =>
      cases hidden : chosen place <;>
        simp [error?, problem?, stays, isNoise, ScanError.isUnexpected, hidden]
  | openString | openComment =>
      simp [error?, problem?, stays, isNoise, ScanError.isUnexpected]
  | _ => simp [error?, problem?]

private theorem errorsFrom_maskAll (chosen : Place → Bool) (place : Place) (items : List Item) :
    errorsFrom place (maskAll chosen place items) =
      (errorsFrom place items).filter (stays chosen) :=
  seenFrom_maskAll (fun _ _ => rfl) (filter_error? chosen) place items

end mask

section fit

private theorem Fits.noise_head (fits : Fits item rest) (noise : item.isNoise = true) :
    ∃ c tail, item.text = c :: tail ∧ c ≠ '\n' := by
  cases fits with
  | lineComment | blockComment => exact ⟨_, _, rfl, by decide⟩
  | @stray c _ noBlank =>
      refine ⟨c, [], rfl, ?_⟩
      rintro rfl
      exact noBlank (by decide)
  | _ => contradiction

/-- Items in front of a text look at the same characters after masking, or at spaces. -/
private theorem FitTogether.relaxes_maskAll (fit : FitTogether rest items) (chosen : Place → Bool)
    (place : Place) :
    Relaxes (items.flatMap Item.text ++ rest)
      ((maskAll chosen place items).flatMap Item.text ++ rest) := by
  induction fit generalizing place with
  | nil => exact .refl rest
  | @cons item items first more ih =>
      rw [maskAll_cons, List.flatMap_cons, List.flatMap_append, flatMap_text_mask,
        List.append_assoc, List.append_assoc]
      split
      · rename_i hidden
        obtain ⟨c, tail, text, inside⟩ := first.noise_head (Bool.and_eq_true_iff.mp hidden).2
        obtain ⟨more, blanks⟩ := Text.exists_blanked_cons inside tail
        rw [text, blanks]
        exact .space inside _ _
      · exact (ih _).append item.text

private theorem FitTogether.maskAll (fit : FitTogether rest items) (chosen : Place → Bool)
    (place : Place) : FitTogether rest (maskAll chosen place items) := by
  induction fit generalizing place with
  | nil => exact .nil
  | @cons item items first more ih =>
      rw [maskAll_cons, mask]
      split
      · refine fitTogether_append.mpr ⟨fitTogether_map_blank ?_ _, ih _⟩
        intro c member
        exact Text.mem_blanks_of_mem_blanked member
      · refine .cons (first.relaxed (more.relaxes_maskAll chosen _) ?_) (ih _)
        -- What runs to the end of the text has nothing behind it that could be masked.
        intro runs
        obtain ⟨none, rfl⟩ := List.append_eq_nil_iff.mp (first.rest_eq_nil runs)
        rw [more.eq_nil none]
        rfl

private theorem ofText_masked (chosen : Place → Bool) (source : Text) :
    ofText (masked chosen source) = maskAll chosen .start (ofText source) := by
  have fit := (tiling_ofText source).fit.maskAll chosen .start
  have tiling : Tiling (maskAll chosen .start (ofText source)) (masked chosen source) :=
    ⟨flatMap_text_maskAll chosen source, fit⟩
  exact tiling.eq_ofText.symm

end fit

section places

private theorem offset_le_of_mem_locate {located : Place × Item}
    (member : located ∈ locate place items) : place.offset ≤ located.1.offset := by
  induction items generalizing place with
  | nil => contradiction
  | cons item items ih =>
      rcases List.mem_cons.mp member with rfl | later
      · exact Nat.le_refl _
      · have behind := ih later
        rw [Place.offset_after] at behind
        omega

private theorem FitTogether.pairwise_offset (fit : FitTogether rest items) (place : Place) :
    ((locate place items).map Prod.fst).Pairwise fun first later =>
      first.offset < later.offset := by
  induction fit generalizing place with
  | nil => exact .nil
  | @cons item items first more ih =>
      refine List.pairwise_cons.mpr ⟨?_, ih _⟩
      intro later member
      obtain ⟨located, inside, rfl⟩ := List.mem_map.mp member
      have behind := offset_le_of_mem_locate inside
      -- No item is empty, so the place behind one has a greater offset.
      have positive := Text.size_pos first.text_ne_nil
      rw [Place.offset_after] at behind
      show place.offset < located.1.offset
      omega

private theorem nodup_places (source : Text) :
    ((locate .start (ofText source)).map Prod.fst).Nodup := by
  have increasing := (tiling_ofText source).fit.pairwise_offset .start
  refine increasing.imp ?_
  rintro first later less rfl
  exact Nat.lt_irrefl _ less

end places

/-- No two items start at one place, so any comments and unexpected characters can be chosen. Where
they are written as blanks the tokens are the same, and of the errors only those about the chosen
characters are gone. -/
theorem scan_masked (chosen : Place → Bool) (source : Text) :
    ((locate .start (ofText source)).map Prod.fst).Nodup ∧
      scan (masked chosen source) =
        { tokens := (scan source).tokens
          errors := (scan source).errors.filter fun error =>
            !(chosen error.place && error.isUnexpected) } := by
  refine ⟨nodup_places source, ?_⟩
  have ends := after_maskAll chosen .start (ofText source)
  rw [flatMap_text_maskAll, flatMap_text_ofText] at ends
  rw [scan_eq, scan_eq, ofText_masked, ends, tokensFrom_maskAll, errorsFrom_maskAll]
  rfl

example : masked (fun place => place.line = 1) "1/*é\n*/@2.//x\n~".toList =
    "1    \n  @2.//x\n~".toList := by
  decide +kernel

end Item

end Lox
