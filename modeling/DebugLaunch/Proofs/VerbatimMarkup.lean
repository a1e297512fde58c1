import DebugLaunch.Proofs.MarkupTags
import Mathlib.Data.List.Infix

/-! Which texts markup leaves as they are. What a text shows is put together from its parts, and
without codes of emoji no part shows more characters than it is made of. A tag shows fewer, with a
backslash in front of it or without, and so does a backslash in front of another bracket: so a text
without colons shows itself exactly if there is none of them. -/
namespace DebugLaunch.VerbatimMarkup
open Display Display.Markup MarkupTags

/-- There is nothing in a text that markup would take for something else: no tag, whatever stands in
front of it, no backslash in front of a bracket, no code of an emoji and no hidden character. -/
structure Verbatim (text : Text) : Prop where
  noTag : ∀ rest ∈ text.tails, takeMarked? rest = none
  noEscape : ¬ ['\\', '['] <:+: text
  noEmoji : Emoji.replace text = text
  noHidden : ∀ c ∈ text, isHidden c = false

/-- No character of a text is hidden or begins the code of an emoji. -/
def Visible (text : Text) : Prop := ∀ c ∈ text, c ≠ ':' ∧ isHidden c = false

instance (text : Text) : Decidable (Visible text) := List.decidableBAll _ text

/-- What parts show, one behind the other. -/
def shownBy (parts : List Part) : Text :=
  parts.flatMap fun
    | .plain text => shown text
    | .tag _ => []

section Shown
variable {text plain shownText : Text} {c : Char}

theorem shown_of_add {rendering next : Rendering} {part : Part}
    (adds : rendering.add part = .ok next) : next.shown = rendering.shown ++ shownBy [part] := by
  unfold Rendering.add at adds
  split at adds
  · cases adds
    simp [shownBy]
  · rename_i body
    cases closes : closed? rendering.opened body with
    | error fault =>
      rw [closes] at adds
      cases adds
    | ok found =>
      rw [closes] at adds
      rcases found with _ | ⟨style, opened⟩
      · cases adds
      · simp only [bind, Except.bind] at adds
        split at adds
        · cases adds
        · cases adds
          simp [shownBy]
  · simp only [bind, Except.bind] at adds
    split at adds
    · cases adds
    · cases adds
      simp [shownBy]

theorem shownBy_append (front behind : List Part) :
    shownBy (front ++ behind) = shownBy front ++ shownBy behind :=
  List.flatMap_append

theorem shown_of_foldlM {parts : List Part} {rendering last : Rendering}
    (adds : parts.foldlM Rendering.add rendering = .ok last) :
    last.shown = rendering.shown ++ shownBy parts := by
  induction parts generalizing rendering with
  | nil =>
    cases adds
    simp [shownBy]
  | cons part rest ih =>
    rw [List.foldlM_cons] at adds
    cases first : rendering.add part with
    | error fault =>
      rw [first] at adds
      cases adds
    | ok next =>
      rw [first] at adds
      rw [ih adds, shown_of_add first, List.append_assoc, ← shownBy_append]
      rfl

/-- A text shows what its parts show. -/
theorem shown_of_render (renders : render text = .ok shownText) :
    shownText = shownBy (parts text) := by
  rw [render] at renders
  cases added : (parts text).foldlM Rendering.add {} with
  | error fault =>
    rw [added] at renders
    cases renders
  | ok rendering =>
    rw [added] at renders
    simp only [bind, Except.bind] at renders
    split at renders
    · cases renders
    · cases renders
      exact (shown_of_foldlM added).trans (List.nil_append _)

/-! ### Texts that show themselves -/

/-- Without tags, all of a text is one part. -/
theorem partsFrom_of_no_tag (noTag : ∀ rest ∈ text.tails, takeMarked? rest = none) (plain : Text) :
    partsFrom plain text = [.plain (plain.reverse ++ text)] := by
  induction text generalizing plain with
  | nil => simp [partsFrom]
  | cons c rest ih =>
    rw [List.tails_cons, List.forall_mem_cons] at noTag
    have later : partsFrom (c :: plain) rest = [.plain (plain.reverse ++ c :: rest)] := by
      simpa using ih noTag.2 (c :: plain)
    rw [partsFrom]
    split
    · split
      · rename_i marked
        rw [noTag.1] at marked
        cases marked
      · exact later
    · exact later

theorem unescape_of_no_escape (noEscape : ¬ ['\\', '['] <:+: text) : unescape text = text := by
  fun_induction unescape text with
  | case1 rest => exact absurd ⟨[], rest, rfl⟩ noEscape
  | case2 c rest _ ih =>
    exact congrArg (List.cons c) (ih fun inside => noEscape (List.infix_cons inside))
  | case3 => rfl

theorem render_of_no_tag (noTag : ∀ rest ∈ text.tails, takeMarked? rest = none) :
    render text = .ok (shown text) := by
  have adds : [Part.plain text].foldlM Rendering.add {} =
      .ok ({ shown := shown text } : Rendering) := rfl
  rw [render, parts, partsFrom_of_no_tag noTag, List.reverse_nil, List.nil_append, adds]
  simp [bind, Except.bind, Rendering.allSpans, pure, Except.pure]

/-- A text with nothing to take for something else shows itself. -/
theorem render_of_verbatim (verbatim : Verbatim text) : render text = .ok text := by
  rw [render_of_no_tag verbatim.noTag, shown, unescape_of_no_escape verbatim.noEscape,
    verbatim.noEmoji]
  exact congrArg Except.ok (List.filter_eq_self.mpr fun c inside => by
    simp [verbatim.noHidden c inside])

/-! ### Texts without codes of emoji -/

theorem replace_of_no_colon (noColon : ':' ∉ text) : Emoji.replace text = text := by
  rw [Emoji.replace]
  induction text with
  | nil => simp [Emoji.replaceBy]
  | cons c rest ih =>
    rw [List.mem_cons, not_or] at noColon
    rw [Emoji.replaceBy, if_neg (Ne.symm noColon.1), ih noColon.2]

theorem unescape_sublist (text : Text) : (unescape text).Sublist text := by
  fun_induction unescape text with
  | case1 rest ih => exact (ih.cons_cons '[').cons '\\'
  | case2 c rest _ ih => exact ih.cons_cons c
  | case3 => exact .slnil

theorem no_escape_of_unescape (same : unescape text = text) : ¬ ['\\', '['] <:+: text := by
  fun_induction unescape text with
  | case1 rest => cases same
  | case2 c rest other ih =>
    rw [List.infix_cons_iff, not_or]
    refine ⟨fun ⟨behind, whole⟩ => ?_, ih (List.cons.inj same).2⟩
    obtain ⟨rfl, rfl⟩ := List.cons.inj whole
    exact other behind rfl rfl
  | case3 => simp

theorem shown_sublist (noColon : ':' ∉ text) : (shown text).Sublist text := by
  rw [shown, replace_of_no_colon fun inside => noColon ((unescape_sublist text).subset inside)]
  exact List.filter_sublist.trans (unescape_sublist text)

theorem of_takeTag? {body behind : Text} (took : takeTag? text = some (body, behind)) :
    text = body ++ ']' :: behind := by
  unfold takeTag? at took
  split at took
  · cases took
  · rename_i first rest
    split at took
    · split at took
      · rename_i inner left broken
        cases took
        rw [(Text.of_breakAt broken).1]
        rfl
      · cases took
    · cases took

theorem of_takeMarked? {body behind : Text} {slashes : Nat}
    (took : takeMarked? text = some (slashes, body, behind)) :
    text = List.replicate slashes '\\' ++ '[' :: (body ++ ']' :: behind) := by
  unfold takeMarked? at took
  split at took
  · rename_i front inner broken
    obtain ⟨⟨_, _⟩, tag, same⟩ := Option.map_eq_some_iff.mp took
    cases same
    obtain ⟨whole, passed, _⟩ := Text.of_breakAt broken
    have front_eq : front = List.replicate front.length '\\' :=
      List.eq_replicate_iff.mpr ⟨rfl, fun d inside => by simpa using passed d inside⟩
    rw [whole, of_takeTag? tag, ← front_eq]
  · cases took

/-- A tag behind some backslashes shows fewer characters than are there: the tag is gone, or a
backslash in front of it. -/
theorem shownBy_mark {body : Text} (noColon : ':' ∉ body) (slashes : Nat) :
    let shownMark := shownBy [.plain (List.replicate (slashes / 2) '\\'),
      if slashes % 2 = 1 then .plain ('[' :: body ++ [']']) else .tag body]
    let mark := List.replicate slashes '\\' ++ ('[' :: body ++ [']'])
    shownMark.Sublist mark ∧ shownMark.length < mark.length := by
  dsimp only
  have half : (shown (List.replicate (slashes / 2) '\\')).Sublist
      (List.replicate (slashes / 2) '\\') := shown_sublist (by simp [List.mem_replicate])
  have halved : (List.replicate (slashes / 2) '\\').Sublist (List.replicate slashes '\\') :=
    (List.replicate_sublist_replicate _).mpr (Nat.div_le_self ..)
  have halfLength := half.length_le
  rw [List.length_replicate] at halfLength
  by_cases odd : slashes % 2 = 1
  · have escaped : (shown ('[' :: body ++ [']'])).Sublist ('[' :: body ++ [']']) :=
      shown_sublist (by simpa)
    have shows : shownBy [.plain (List.replicate (slashes / 2) '\\'),
          .plain ('[' :: body ++ [']'])] =
        shown (List.replicate (slashes / 2) '\\') ++ shown ('[' :: body ++ [']']) := by
      simp [shownBy]
    rw [if_pos odd, shows]
    refine ⟨(half.trans halved).append escaped, ?_⟩
    rw [List.length_append, List.length_append, List.length_replicate]
    have escapedLength := escaped.length_le
    omega
  · have shows : shownBy [.plain (List.replicate (slashes / 2) '\\'), .tag body] =
        shown (List.replicate (slashes / 2) '\\') := by
      simp [shownBy]
    rw [if_neg odd, shows]
    refine ⟨(half.trans halved).trans (List.sublist_append_left ..), ?_⟩
    rw [List.length_append, List.length_replicate, List.length_append, List.length_cons]
    omega

theorem takeMarked?_of_ordinary {rest : Text} (ordinary : ¬ (c = '\\' || c = '[') = true) :
    takeMarked? (c :: rest) = none := by
  by_contra tagged
  obtain ⟨⟨slashes, body, behind⟩, marked⟩ := Option.ne_none_iff_exists'.mp tagged
  have whole := of_takeMarked? marked
  cases slashes with
  | zero => exact ordinary (by simp [(List.cons.inj whole).1])
  | succ slashes => exact ordinary (by simp [(List.cons.inj whole).1])

/-- The parts of a text show no more than its characters, and all of them only if no part is a tag
or was one without the backslashes in front of it. -/
theorem shownBy_partsFrom (plain text : Text) (noColon : ':' ∉ plain.reverse ++ text) :
    (shownBy (partsFrom plain text)).Sublist (plain.reverse ++ text) ∧
      (shownBy (partsFrom plain text) = plain.reverse ++ text →
        ∀ rest ∈ text.tails, takeMarked? rest = none) := by
  fun_induction partsFrom plain text with
  | case1 plain =>
    rw [List.append_nil] at noColon
    refine ⟨by simpa [shownBy] using shown_sublist noColon, fun _ => ?_⟩
    simp [takeMarked?, Text.breakAt]
  | case2 plain c rest special slashes body behind marked ih =>
    have whole : c :: rest = List.replicate slashes '\\' ++ ('[' :: body ++ [']']) ++ behind := by
      simpa using of_takeMarked? marked
    rw [whole] at noColon ⊢
    simp only [List.mem_append, List.mem_cons, not_or] at noColon
    obtain ⟨inPlain, ⟨-, ⟨-, inBody⟩, -⟩, inBehind⟩ := noColon
    have front : (shown plain.reverse).Sublist plain.reverse := shown_sublist inPlain
    obtain ⟨mark, shorter⟩ := shownBy_mark inBody slashes
    have others : (shownBy (partsFrom [] behind)).Sublist behind := (ih (by simpa)).1
    generalize (if slashes % 2 = 1 then Part.plain ('[' :: body ++ [']']) else .tag body) = tag
      at mark shorter ⊢
    have shows : shownBy (.plain plain.reverse ::
        .plain (List.replicate (slashes / 2) '\\') :: tag :: partsFrom [] behind) =
        shown plain.reverse ++ (shownBy [.plain (List.replicate (slashes / 2) '\\'), tag] ++
          shownBy (partsFrom [] behind)) := by
      rw [← shownBy_append]
      rfl
    rw [shows]
    refine ⟨front.append (mark.append others), fun same => ?_⟩
    have lengths := congrArg List.length same
    have frontLength := front.length_le
    have othersLength := others.length_le
    rw [List.length_append, List.length_append, List.length_append, List.length_append] at lengths
    omega
  | case3 plain c rest special unmarked ih =>
    obtain ⟨sublist, noTag⟩ := ih (by simpa using noColon)
    rw [List.reverse_cons, List.append_assoc] at sublist noTag
    refine ⟨sublist, fun same => ?_⟩
    rw [List.tails_cons, List.forall_mem_cons]
    exact ⟨unmarked, noTag same⟩
  | case4 plain c rest ordinary ih =>
    obtain ⟨sublist, noTag⟩ := ih (by simpa using noColon)
    rw [List.reverse_cons, List.append_assoc] at sublist noTag
    refine ⟨sublist, fun same => ?_⟩
    rw [List.tails_cons, List.forall_mem_cons]
    exact ⟨takeMarked?_of_ordinary ordinary, noTag same⟩

/-- A text that is shown as it is holds nothing that markup would take for something else. -/
theorem verbatim_of_render (noColon : ':' ∉ text) (renders : render text = .ok text) :
    Verbatim text := by
  have noTag : ∀ rest ∈ text.tails, takeMarked? rest = none :=
    (shownBy_partsFrom [] text noColon).2 (shown_of_render renders).symm
  have same : shown text = text := by
    rw [render_of_no_tag noTag] at renders
    exact Except.ok.inj renders
  have noEmoji : Emoji.replace (unescape text) = unescape text :=
    replace_of_no_colon fun inside => noColon ((unescape_sublist text).subset inside)
  rw [shown, noEmoji] at same
  have filtered := List.length_filter_le (fun c => !isHidden c) (unescape text)
  rw [same] at filtered
  have whole : unescape text = text :=
    (unescape_sublist text).eq_of_length_le filtered
  rw [whole] at same
  refine ⟨noTag, no_escape_of_unescape whole, replace_of_no_colon noColon, fun c inside => ?_⟩
  simpa using List.filter_eq_self.mp same c inside

/-- Texts without colons are shown as they are exactly if there is nothing in them that markup would
take for something else. -/
theorem render_eq_self_iff (noColon : ':' ∉ text) : render text = .ok text ↔ Verbatim text :=
  ⟨verbatim_of_render noColon, render_of_verbatim⟩

theorem verbatim_of_plain (plain : Plain text) (visible : Visible text) : Verbatim text := by
  refine ⟨fun rest inside => ?_, fun ⟨front, behind, whole⟩ => ?_,
    replace_of_no_colon fun inside => (visible _ inside).1 rfl,
    fun c inside => (visible c inside).2⟩
  · by_contra tagged
    obtain ⟨⟨slashes, body, behind⟩, marked⟩ := Option.ne_none_iff_exists'.mp tagged
    have bracket : '[' ∈ rest := by simp [of_takeMarked? marked]
    exact (plain _ (((List.mem_tails _ _).mp inside).subset bracket)).1 rfl
  · exact (plain '[' (by simp [← whole])).1 rfl

end Shown

end DebugLaunch.VerbatimMarkup
