import DebugLaunch.Machine
import Mathlib.Data.List.Forall2

/-! Runs of actions, one step at a time. A run of several steps is taken apart at its binds; the
steps themselves ask the files, change them, or print. What is printed can stop an action, but it
changes nothing of the machine besides its output. -/
namespace DebugLaunch.Action
variable {α β : Type} {action : Action α} {next : α → Action β} {machine after : Machine}

theorem runOn_pure (value : α) (machine : Machine) :
    (pure value : Action α).runOn machine = (.ok value, machine) := rfl

theorem runOn_throw (fault : Fault) (machine : Machine) :
    (throw fault : Action α).runOn machine = (.error fault, machine) := rfl

theorem runOn_bind (action : Action α) (next : α → Action β) (machine : Machine) :
    (action >>= next).runOn machine = match action.runOn machine with
      | (.ok value, middle) => (next value).runOn middle
      | (.error fault, middle) => (.error fault, middle) := by
  show (ExceptT.bindCont next (action.runOn machine).1).run (action.runOn machine).2 = _
  rcases action.runOn machine with ⟨value | fault, middle⟩ <;> rfl

theorem runOn_of_result {result : Except Fault α} (gives : (action.runOn machine).1 = result) :
    action.runOn machine = (result, (action.runOn machine).2) := by
  rw [← gives]

/-- A run that gives a result has run every step to its result. -/
theorem bind_ok {value : β} (ran : (action >>= next).runOn machine = (.ok value, after)) :
    ∃ first middle, action.runOn machine = (.ok first, middle) ∧
      (next first).runOn middle = (.ok value, after) := by
  rw [runOn_bind] at ran
  split at ran
  · rename_i first middle done
    exact ⟨first, middle, done, ran⟩
  · simp at ran

/-- A run that fails does so in its first step, or in the others behind a first one that did not. -/
theorem bind_error {fault : Fault} (ran : (action >>= next).runOn machine = (.error fault, after)) :
    action.runOn machine = (.error fault, after) ∨
      ∃ first middle, action.runOn machine = (.ok first, middle) ∧
        (next first).runOn middle = (.error fault, after) := by
  rw [runOn_bind] at ran
  split at ran
  · rename_i first middle done
    exact .inr ⟨first, middle, done, ran⟩
  · rename_i failed
    simp only [Prod.mk.injEq, Except.error.injEq] at ran
    obtain ⟨rfl, rfl⟩ := ran
    exact .inl failed

theorem runOn_bind_of_ok {first : α} {middle : Machine}
    (done : action.runOn machine = (.ok first, middle)) :
    (action >>= next).runOn machine = (next first).runOn middle := by
  rw [runOn_bind, done]

theorem runOn_get (machine : Machine) :
    (get : Action Machine).runOn machine = (.ok machine, machine) := rfl

theorem runOn_set (machine after : Machine) :
    (set after : Action Unit).runOn machine = (.ok (), after) := rfl

theorem runOn_ask (view : Machine → α) (machine : Machine) :
    (ask view).runOn machine = (.ok (view machine), machine) := rfl

/-- The answer that the files give, or the fault for which they give none. -/
theorem runOn_askFiles (view : FileTree → Place → Except PathError α) (machine : Machine) :
    (askFiles view).runOn machine =
      ((view machine.files machine.directory).mapError .file, machine) := by
  rw [askFiles, runOn_bind, runOn_get]
  dsimp only
  cases view machine.files machine.directory <;> rfl

theorem runOn_askFiles_ok {view : FileTree → Place → Except PathError α} {answer : α} :
    (askFiles view).runOn machine = (.ok answer, after) ↔
      view machine.files machine.directory = .ok answer ∧ after = machine := by
  rw [runOn_askFiles]
  cases view machine.files machine.directory with
  | error error => exact iff_of_false (fun ran => by cases ran) fun given => by cases given.1
  | ok given =>
    constructor
    · rintro ⟨⟩
      exact ⟨rfl, rfl⟩
    · rintro ⟨⟨⟩, rfl⟩
      rfl

/-- Files that refuse a change are left as they are. -/
theorem runOn_changeFiles (change : FileTree → Place → Except PathError FileTree)
    (machine : Machine) :
    (changeFiles change).runOn machine = match change machine.files machine.directory with
      | .ok files => (.ok (), { machine with files })
      | .error error => (.error (.file error), machine) := by
  rw [changeFiles, runOn_bind, runOn_askFiles]
  cases change machine.files machine.directory <;> rfl

/-- Directories that were made stay, also where the action fails. -/
theorem runOn_ensureDirectory (path : Path) (machine : Machine) :
    (ensureDirectory path).runOn machine =
      ((machine.files.ensureDirectory machine.directory path).2.mapError .file,
        { machine with files := (machine.files.ensureDirectory machine.directory path).1 }) := by
  rw [ensureDirectory, runOn_bind, runOn_get]
  dsimp only
  rw [runOn_bind, runOn_set]
  dsimp only
  cases (machine.files.ensureDirectory machine.directory path).2 <;> rfl

/-- What it comes to to say a marked up text: only a screen can stumble over it. -/
def said (console : Option Console) (markup : Text) : Except Fault Unit :=
  match console with
  | none => .ok ()
  | some _ => ((Display.Markup.render markup).map fun _ => ()).mapError .markup

/-- Only the markup of a line can keep it from being said. -/
theorem said_error {console : Option Console} {markup : Text} {fault : Fault}
    (fails : said console markup = .error fault) : ∃ inner, fault = .markup inner := by
  cases console with
  | none => cases fails
  | some console =>
    rw [said] at fails
    cases rendered : Display.Markup.render markup with
    | ok text =>
      rw [rendered] at fails
      cases fails
    | error inner =>
      rw [rendered] at fails
      cases fails
      exact ⟨inner, rfl⟩

theorem runOn_say (console : Option Console) (markup : Text) (machine : Machine) :
    ∃ output, (say console markup).runOn machine =
      (said console markup, { machine with output }) := by
  cases console with
  | none => exact ⟨machine.output, rfl⟩
  | some console =>
    simp only [say, printMarkup, said]
    rw [runOn_bind]
    cases rendered : Display.Markup.render markup with
    | ok text =>
      have shown : (render markup).runOn machine = (.ok text, machine) := by
        rw [render, rendered, runOn_pure]
      rw [shown]
      exact ⟨_, rfl⟩
    | error fault =>
      have refused : (render markup).runOn machine = (.error (.markup fault), machine) := by
        rw [render, rendered, runOn_throw]
      rw [refused]
      exact ⟨machine.output, rfl⟩

/-- A line is shown exactly if nothing in it can be stumbled over. -/
theorem runOn_say_iff {console : Option Console} {markup : Text} (machine : Machine) :
    (∃ output, (say console markup).runOn machine = (.ok (), { machine with output })) ↔
      said console markup = .ok () := by
  obtain ⟨shown, ran⟩ := runOn_say console markup machine
  rw [ran]
  cases said console markup <;> simp

/-- An action that prints at most: it leaves all else of the machine as it is, also where it fails.
-/
def OnlyPrints (action : Action α) : Prop :=
  ∀ machine, ∃ output, (action.runOn machine).2 = { machine with output }

theorem after_of_onlyPrints (prints : OnlyPrints action) {result : Except Fault α}
    (ran : action.runOn machine = (result, after)) : ∃ output, after = { machine with output } := by
  obtain ⟨output, same⟩ := prints machine
  exact ⟨output, by rw [← same, ran]⟩

theorem onlyPrints_pure (value : α) : OnlyPrints (pure value) := fun machine =>
  ⟨machine.output, rfl⟩

theorem onlyPrints_throw (fault : Fault) : OnlyPrints (throw fault : Action α) := fun machine =>
  ⟨machine.output, rfl⟩

theorem onlyPrints_askFiles (view : FileTree → Place → Except PathError α) :
    OnlyPrints (askFiles view) := fun machine => ⟨machine.output, by rw [runOn_askFiles]⟩

theorem onlyPrints_ask (view : Machine → α) : OnlyPrints (ask view) := fun machine =>
  ⟨machine.output, rfl⟩

theorem onlyPrints_say (console : Option Console) (markup : Text) :
    OnlyPrints (say console markup) := by
  intro machine
  obtain ⟨output, ran⟩ := runOn_say console markup machine
  exact ⟨output, by rw [ran]⟩

theorem onlyPrints_bind (first : OnlyPrints action) (others : ∀ value, OnlyPrints (next value)) :
    OnlyPrints (action >>= next) := by
  intro machine
  obtain ⟨output, middleSame⟩ := first machine
  rw [runOn_bind]
  rcases ran : action.runOn machine with ⟨fault | value, middle⟩
  · rw [ran] at middleSame
    exact ⟨output, middleSame⟩
  · rw [ran] at middleSame
    obtain rfl : middle = _ := middleSame
    exact others value _

theorem onlyPrints_print (text : Text) : OnlyPrints (print text) := fun machine =>
  ⟨machine.output ++ text, rfl⟩

theorem onlyPrints_mapM {action : α → Action β} (each : ∀ item, OnlyPrints (action item))
    (items : List α) : OnlyPrints (items.mapM action) := by
  induction items with
  | nil => exact onlyPrints_pure []
  | cons item rest ih =>
    rw [List.mapM_cons]
    exact onlyPrints_bind (each item) fun _ => onlyPrints_bind ih fun _ => onlyPrints_pure _

theorem onlyPrints_isThere (path : Path) : OnlyPrints (isThere path) :=
  onlyPrints_bind (onlyPrints_askFiles _) fun _ => onlyPrints_pure _

/-- An action leaves what a view shows of the machine as it is, also where it fails. -/
def Keeps {γ : Type} (view : Machine → γ) (action : Action α) : Prop :=
  ∀ machine, view (action.runOn machine).2 = view machine

section Keeping
variable {γ : Type} {view : Machine → γ}

theorem after_of_keeps (keeps : Keeps view action) {result : Except Fault α}
    (ran : action.runOn machine = (result, after)) : view after = view machine := by
  rw [← keeps machine, ran]

theorem keeps_of_onlyPrints (prints : OnlyPrints action)
    (blind : ∀ machine output, view { machine with output } = view machine) :
    Keeps view action := by
  intro machine
  obtain ⟨output, same⟩ := prints machine
  rw [same, blind]

theorem keeps_pure (view : Machine → γ) (value : α) : Keeps view (pure value) := fun _ => rfl

theorem keeps_throw (view : Machine → γ) (fault : Fault) : Keeps view (throw fault : Action α) :=
  fun _ => rfl

theorem keeps_askFiles (view : Machine → γ) (question : FileTree → Place → Except PathError α) :
    Keeps view (askFiles question) := fun machine => by rw [runOn_askFiles]

theorem keeps_bind (first : Keeps view action) (others : ∀ value, Keeps view (next value)) :
    Keeps view (action >>= next) := by
  intro machine
  rw [runOn_bind]
  rcases ran : action.runOn machine with ⟨fault | value, middle⟩
  · exact after_of_keeps first ran
  · exact (others value middle).trans (after_of_keeps first ran)

theorem keeps_render (view : Machine → γ) (markup : Text) : Keeps view (render markup) := by
  rw [render]
  cases Display.Markup.render markup with
  | ok text => exact keeps_pure view _
  | error fault => exact keeps_throw view _

theorem keeps_mapM {action : α → Action β} (each : ∀ item, Keeps view (action item))
    (items : List α) : Keeps view (items.mapM action) := by
  induction items with
  | nil => exact keeps_pure view _
  | cons item rest ih =>
    rw [List.mapM_cons]
    exact keeps_bind (each item) fun _ => keeps_bind ih fun _ => keeps_pure view _

end Keeping

theorem onlyPrints_of_still (still : Keeps id action) : OnlyPrints action := fun machine =>
  ⟨machine.output, still machine⟩

theorem onlyPrints_render (markup : Text) : OnlyPrints (render markup) :=
  onlyPrints_of_still (keeps_render id markup)

theorem runOn_render_iff {markup shown : Text} :
    (render markup).runOn machine = (.ok shown, machine) ↔
      Display.Markup.render markup = .ok shown := by
  rw [render]
  cases Display.Markup.render markup with
  | ok text => simp [runOn_pure]
  | error fault => simp [runOn_throw]

section Items
variable {action : α → Action β} {items : List α} {values : List β}

/-- Where no item changes the machine, all of them succeed exactly if each does so on its own. -/
theorem runOn_mapM_iff (still : ∀ item, Keeps id (action item)) :
    (items.mapM action).runOn machine = (.ok values, after) ↔ after = machine ∧
      List.Forall₂ (fun item value => (action item).runOn machine = (.ok value, machine))
        items values := by
  induction items generalizing values with
  | nil =>
    rw [List.mapM_nil, runOn_pure, List.forall₂_nil_left_iff]
    constructor
    · rintro ⟨⟩
      exact ⟨rfl, rfl⟩
    · rintro ⟨rfl, rfl⟩
      rfl
  | cons item rest ih =>
    rw [List.mapM_cons, List.forall₂_cons_left_iff]
    constructor
    · intro ran
      obtain ⟨value, middle, first, later⟩ := bind_ok ran
      obtain ⟨others, last, more, ends⟩ := bind_ok later
      cases ends
      obtain rfl : middle = machine := after_of_keeps (still item) first
      obtain ⟨rfl, each⟩ := ih.mp more
      exact ⟨rfl, value, others, first, each, rfl⟩
    · rintro ⟨rfl, value, others, first, each, rfl⟩
      rw [runOn_bind_of_ok first, runOn_bind_of_ok (ih.mpr ⟨rfl, each⟩)]
      rfl

/-- There are values for all items exactly if there is one for each. -/
theorem exists_forall₂ {R : α → β → Prop} :
    (∃ values, List.Forall₂ R items values) ↔ ∀ item ∈ items, ∃ value, R item value := by
  induction items with
  | nil => simp
  | cons item rest ih =>
    rw [List.forall_mem_cons, ← ih]
    constructor
    · rintro ⟨_, holds⟩
      cases holds with
      | cons first more => exact ⟨⟨_, first⟩, _, more⟩
    · rintro ⟨⟨value, first⟩, others, more⟩
      exact ⟨value :: others, .cons first more⟩

end Items


/-- An action does the same in every environment, and leaves the one that it has as it is. -/
def Unaware (action : Action α) : Prop :=
  ∀ machine environment, action.runOn { machine with environment } =
    ((action.runOn machine).1, { (action.runOn machine).2 with environment })

section Unawareness

theorem unaware_pure (value : α) : Unaware (pure value) := fun _ _ => rfl

theorem unaware_throw (fault : Fault) : Unaware (throw fault : Action α) := fun _ _ => rfl

theorem unaware_askFiles (question : FileTree → Place → Except PathError α) :
    Unaware (askFiles question) := by
  intro machine environment
  rw [runOn_askFiles, runOn_askFiles]

theorem unaware_print (text : Text) : Unaware (print text) := fun _ _ => rfl

theorem unaware_bind (first : Unaware action) (others : ∀ value, Unaware (next value)) :
    Unaware (action >>= next) := by
  intro machine environment
  rw [runOn_bind, runOn_bind, first]
  rcases action.runOn machine with ⟨fault | value, middle⟩
  · rfl
  · exact others value middle environment

theorem unaware_say (console : Option Console) (markup : Text) : Unaware (say console markup) := by
  cases console with
  | none => exact unaware_pure ()
  | some console =>
    refine unaware_bind ?_ fun text => unaware_print _
    rw [render]
    cases Display.Markup.render markup with
    | ok text => exact unaware_pure text
    | error fault => exact unaware_throw _

end Unawareness

/-- An action stops with certain faults only. -/
def Raises (may : Fault → Prop) (action : Action α) : Prop :=
  ∀ machine fault after, action.runOn machine = (.error fault, after) → may fault

section Raising
variable {may : Fault → Prop}

theorem raises_mono {other : Fault → Prop} (implies : ∀ fault, may fault → other fault)
    (raises : Raises may action) : Raises other action := fun machine fault after ran =>
  implies fault (raises machine fault after ran)

theorem raises_pure (value : α) : Raises may (pure value) := by
  intro machine fault after ran
  cases ran

theorem raises_throw {fault : Fault} (here : may fault) : Raises may (throw fault : Action α) := by
  intro machine fault after ran
  cases ran
  exact here

theorem raises_ask (view : Machine → α) : Raises may (ask view) := by
  intro machine fault after ran
  cases ran

theorem raises_print (text : Text) : Raises may (print text) := by
  intro machine fault after ran
  cases ran

theorem raises_bind (first : Raises may action)
    (rest : ∀ value, (∃ machine after, action.runOn machine = (.ok value, after)) →
      Raises may (next value)) : Raises may (action >>= next) := by
  intro machine fault after ran
  rcases bind_error ran with failed | ⟨value, middle, done, failed⟩
  · exact first machine fault after failed
  · exact rest value ⟨machine, middle, done⟩ middle fault after failed

theorem raises_askFiles {view : FileTree → Place → Except PathError α}
    (here : ∀ tree place error, view tree place = .error error → may (.file error)) :
    Raises may (askFiles view) := by
  intro machine fault after ran
  rw [runOn_askFiles] at ran
  cases answer : view machine.files machine.directory with
  | ok value =>
    rw [answer] at ran
    cases ran
  | error error =>
    rw [answer] at ran
    cases ran
    exact here _ _ _ answer

theorem raises_mapM {items : List α} {action : α → Action β}
    (each : ∀ item ∈ items, Raises may (action item)) : Raises may (items.mapM action) := by
  induction items with
  | nil => exact raises_pure []
  | cons item rest ih =>
    rw [List.mapM_cons]
    refine raises_bind (each item (List.mem_cons_self ..)) fun _ _ => ?_
    refine raises_bind (ih fun other inside => each other (List.mem_cons_of_mem _ inside))
      fun _ _ => raises_pure _

theorem raises_render (markups : ∀ fault, may (.markup fault)) (markup : Text) :
    Raises may (render markup) := by
  rw [render]
  cases Display.Markup.render markup with
  | ok text => exact raises_pure text
  | error fault => exact raises_throw (markups fault)

theorem raises_say (markups : ∀ fault, may (.markup fault)) (console : Option Console)
    (markup : Text) : Raises may (say console markup) := by
  cases console with
  | none => exact raises_pure ()
  | some console => exact raises_bind (raises_render markups markup) fun _ _ => raises_print _

end Raising

end DebugLaunch.Action
