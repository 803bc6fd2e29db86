import Mathlib.Data.List.Induction
import NetFault.Lib.Assignments

/-!
# Command lines

A program reads its arguments one after the other: each names an option, some options take the next
argument for their value, and one argument stops the reading.  The options update a state as they
come.  `parse_eq_iff` says for every command line how the reading ends and after which settings.
When each update of a state that stands for some assignments is one more assignment, a later one
replacing an earlier one, the state after any settings stands for what they assign
(`launch_parse_iff`).
-/

namespace CommandLine

variable {κ σ : Type*}

/-- What an option does: with the value that it takes, or by being there. -/
inductive Action (σ : Type*)
  | value (read : String → Except String (σ → σ))
  | flag (set : σ → σ)

/-- The options of a program, each under a name of its own. -/
structure Grammar (κ σ : Type*) where
  all : List κ
  name : κ → String
  action : κ → Action σ
  /-- The argument that stops the reading. -/
  stop : String
  mem_all : ∀ key, key ∈ all
  nodup : (stop :: all.map name).Nodup

/-- The option of a name. -/
def Grammar.key? (g : Grammar κ σ) (argument : String) : Option κ :=
  g.all.find? fun key => decide (g.name key = argument)

inductive Error
  | unknown (argument : String)
  | missing (argument : String)
  | rejected (message : String)
  deriving DecidableEq, Repr

/-- The loop over the arguments; no state is left when it was stopped. -/
def Grammar.parse (g : Grammar κ σ) : List String → σ → Except Error (Option σ)
  | [], s => .ok (some s)
  | argument :: rest, s =>
      if argument = g.stop then .ok none
      else
        match g.key? argument with
        | none => .error (.unknown argument)
        | some key =>
            match g.action key with
            | .flag set => parse g rest (set s)
            | .value read =>
                match rest with
                | [] => .error (.missing argument)
                | value :: rest =>
                    match read value with
                    | .error message => .error (.rejected message)
                    | .ok set => parse g rest (set s)

/-- An option on the command line, with its value if it takes one. -/
structure Setting (κ : Type*) where
  key : κ
  value : Option String
  deriving DecidableEq, Repr

namespace Setting

def words (g : Grammar κ σ) (x : Setting κ) : List String := g.name x.key :: x.value.toList

/-- What is assigned to the option; nothing is written for a flag. -/
def text (x : Setting κ) : String := x.value.getD ""

end Setting

namespace Grammar

variable (g : Grammar κ σ)

/-- The update that a setting makes, if it is one the program accepts. -/
def update (x : Setting κ) : Option (σ → σ) :=
  match g.action x.key, x.value with
  | .flag set, none => some set
  | .value read, some value => (read value).toOption
  | _, _ => none

/-- The updates of some settings, one after the other. -/
def applyAll : List (Setting κ) → σ → Option σ
  | [], s => some s
  | x :: xs, s => (g.update x).bind fun set => applyAll xs (set s)

inductive Ending
  | done
  | stopped
  | failed (e : Error)

/-- How the reading ends with the arguments that are left. -/
inductive Ends : List String → Ending → Prop
  | done : Ends [] .done
  | stopped (rest : List String) : Ends (g.stop :: rest) .stopped
  | unknown (argument : String) (rest : List String) (other : argument ≠ g.stop)
      (none : ∀ key, g.name key ≠ argument) :
      Ends (argument :: rest) (.failed (.unknown argument))
  | missing (key : κ) (read : String → Except String (σ → σ))
      (action : g.action key = .value read) :
      Ends [g.name key] (.failed (.missing (g.name key)))
  | rejected (key : κ) (read : String → Except String (σ → σ)) (value message : String)
      (rest : List String) (action : g.action key = .value read)
      (error : read value = .error message) :
      Ends (g.name key :: value :: rest) (.failed (.rejected message))

/-- What the loop returns. -/
def Ending.outcome (s : σ) : Ending → Except Error (Option σ)
  | .done => .ok (some s)
  | .stopped => .ok none
  | .failed e => .error e

variable {g}

lemma key?_eq_some_iff {argument : String} {key : κ} :
    g.key? argument = some key ↔ g.name key = argument := by
  constructor
  · intro h
    simpa using List.find?_some h
  · rintro rfl
    obtain ⟨other, hother⟩ : ∃ other, g.key? (g.name key) = some other :=
      Option.isSome_iff_exists.mp (List.find?_isSome.mpr ⟨key, g.mem_all key, by simp⟩)
    have hname : g.name other = g.name key := by simpa using List.find?_some hother
    rw [hother, List.inj_on_of_nodup_map (List.nodup_cons.mp g.nodup).2 (g.mem_all other)
      (g.mem_all key) hname]

lemma key?_name (key : κ) : g.key? (g.name key) = some key := key?_eq_some_iff.mpr rfl

lemma name_ne_stop (key : κ) : g.name key ≠ g.stop := fun heq =>
  (List.nodup_cons.mp g.nodup).1 (List.mem_map.mpr ⟨key, g.mem_all key, heq⟩)

/-- A setting of an option whose value is read. -/
lemma update_of_read {α : Type*} {read : String → Except String α} {set : α → σ → σ} {key : κ}
    (haction : g.action key = .value fun text => (read text).map set) {value : Option String}
    {f : σ → σ} : g.update ⟨key, value⟩ = some f ↔
      ∃ text a, value = some text ∧ read text = .ok a ∧ f = set a := by
  rw [update, haction]
  rcases value with _ | text
  · simp
  · rcases hread : read text with message | a
    · simp [hread, Except.toOption, Except.map]
    · simp [hread, Except.toOption, Except.map, eq_comm]

/-- A setting of a flag. -/
lemma update_of_flag {set : σ → σ} {key : κ} (haction : g.action key = .flag set)
    {value : Option String} {f : σ → σ} :
    g.update ⟨key, value⟩ = some f ↔ value = none ∧ f = set := by
  rw [update, haction]
  rcases value with _ | text
  · simp [eq_comm]
  · simp

/-- An accepted setting is read and its update made. -/
lemma parse_words {x : Setting κ} {set : σ → σ} (h : g.update x = some set) (rest : List String)
    (s : σ) : g.parse (x.words g ++ rest) s = g.parse rest (set s) := by
  obtain ⟨key, value⟩ := x
  rw [update] at h
  rcases haction : g.action key with read | set' <;> rcases value with _ | value <;>
    simp only [haction, reduceCtorEq, Option.some.injEq] at h
  · rcases hread : read value with message | set'
    · simp [hread, Except.toOption] at h
    · obtain rfl : set' = set := by simpa [hread, Except.toOption] using h
      simp [Setting.words, parse, name_ne_stop, key?_name, haction, hread]
  · subst h
    simp [Setting.words, parse, name_ne_stop, key?_name, haction]

lemma parse_settings {xs : List (Setting κ)} {s s' : σ} (h : g.applyAll xs s = some s')
    (rest : List String) : g.parse (xs.flatMap (·.words g) ++ rest) s = g.parse rest s' := by
  induction xs generalizing s with
  | nil =>
      obtain rfl := Option.some.inj h
      rfl
  | cons x xs ih =>
      obtain ⟨set, hset, htail⟩ := Option.bind_eq_some_iff.mp h
      rw [List.flatMap_cons, List.append_assoc, parse_words hset, ih htail]

lemma parse_of_ends {rest : List String} {ending : Ending} (h : g.Ends rest ending) (s : σ) :
    g.parse rest s = ending.outcome s := by
  cases h with
  | done => rfl
  | stopped rest => simp [parse, Ending.outcome]
  | unknown argument rest other none =>
      have hkey : g.key? argument = Option.none := by
        rw [Option.eq_none_iff_forall_ne_some]
        exact fun key hkey => none key (key?_eq_some_iff.mp hkey)
      simp [parse, other, hkey, Ending.outcome]
  | missing key read action =>
      simp [parse, name_ne_stop, key?_name, action, Ending.outcome]
  | rejected key read value message rest action error =>
      simp [parse, name_ne_stop, key?_name, action, error, Ending.outcome]

/-- Every command line is some settings and an ending.  The induction is that of `parse`. -/
lemma exists_settings (argv : List String) (s : σ) : ∃ xs rest ending s',
    argv = xs.flatMap (·.words g) ++ rest ∧ g.applyAll xs s = some s' ∧ g.Ends rest ending := by
  fun_induction g.parse argv s with
  | case1 s => exact ⟨[], [], .done, s, rfl, rfl, .done⟩
  | case2 rest s => exact ⟨[], g.stop :: rest, .stopped, s, rfl, rfl, .stopped rest⟩
  | case3 argument rest s hstop hkey =>
      refine ⟨[], argument :: rest, .failed (.unknown argument), s, rfl, rfl,
        .unknown argument rest hstop fun key hname => ?_⟩
      rw [key?_eq_some_iff.mpr hname] at hkey
      cases hkey
  | case4 argument rest s hstop key hkey set haction ih =>
      obtain rfl := key?_eq_some_iff.mp hkey
      obtain ⟨xs, rest', ending, s', rfl, happly, hends⟩ := ih
      have hupdate : g.update ⟨key, none⟩ = some set := by simp [update, haction]
      exact ⟨⟨key, none⟩ :: xs, rest', ending, s', rfl, by rw [applyAll, hupdate]; exact happly,
        hends⟩
  | case5 argument s hstop key hkey read haction =>
      obtain rfl := key?_eq_some_iff.mp hkey
      exact ⟨[], _, _, s, rfl, rfl, .missing key read haction⟩
  | case6 argument s hstop key hkey read haction value rest message hread =>
      obtain rfl := key?_eq_some_iff.mp hkey
      exact ⟨[], _, _, s, rfl, rfl, .rejected key read value message rest haction hread⟩
  | case7 argument s hstop key hkey read haction value rest set hread ih =>
      obtain rfl := key?_eq_some_iff.mp hkey
      obtain ⟨xs, rest', ending, s', rfl, happly, hends⟩ := ih
      have hupdate : g.update ⟨key, some value⟩ = some set := by
        simp [update, haction, hread, Except.toOption]
      exact ⟨⟨key, some value⟩ :: xs, rest', ending, s', rfl,
        by rw [applyAll, hupdate]; exact happly, hends⟩

/-- **How the reading ends, and after which settings.** -/
theorem parse_eq_iff {argv : List String} {s : σ} {outcome : Except Error (Option σ)} :
    g.parse argv s = outcome ↔ ∃ xs rest ending s', argv = xs.flatMap (·.words g) ++ rest ∧
      g.applyAll xs s = some s' ∧ g.Ends rest ending ∧ outcome = ending.outcome s' := by
  constructor
  · rintro rfl
    obtain ⟨xs, rest, ending, s', rfl, happly, hends⟩ := exists_settings (g := g) argv s
    exact ⟨xs, rest, ending, s', rfl, happly, hends,
      by rw [parse_settings happly, parse_of_ends hends]⟩
  · rintro ⟨xs, rest, ending, s', rfl, happly, hends, rfl⟩
    rw [parse_settings happly, parse_of_ends hends]

lemma applyAll_concat (xs : List (Setting κ)) (x : Setting κ) (s : σ) :
    g.applyAll (xs ++ [x]) s =
      (g.applyAll xs s).bind fun s => (g.update x).map fun set => set s := by
  induction xs generalizing s with
  | nil => rcases h : g.update x with _ | set <;> simp [applyAll, h]
  | cons y xs ih =>
      rcases h : g.update y with _ | set
      · simp [applyAll, h]
      · simp [applyAll, h, ih]

end Grammar

/-! ## What the settings assign -/

/-- The settings that some values make, in the order of the options. -/
def settingsOf (all : List κ) (value : κ → Option (Option String)) : List (Setting κ) :=
  all.filterMap fun key => (value key).map (Setting.mk key)

lemma mem_settingsOf {all : List κ} {value : κ → Option (Option String)} {x : Setting κ} :
    x ∈ settingsOf all value ↔ x.key ∈ all ∧ value x.key = some x.value := by
  obtain ⟨key, text⟩ := x
  simp [settingsOf]

lemma nodup_settingsOf {all : List κ} (hall : all.Nodup) (value : κ → Option (Option String)) :
    ((settingsOf all value).map Setting.key).Nodup := by
  refine hall.sublist ?_
  clear hall
  induction all with
  | nil => exact List.Sublist.slnil
  | cons key all ih =>
      rw [settingsOf, List.filterMap_cons]
      rcases value key with _ | text
      · exact ih.cons key
      · exact ih.cons_cons key

variable [DecidableEq κ]

/-- What some settings assign to an option: the text of the last of them. -/
def given (xs : List (Setting κ)) (key : κ) : Option String :=
  (Assignments.assignAll (xs.map fun x => (x.key, x.text)) ∅).lookup key

@[simp] lemma given_nil (key : κ) : given ([] : List (Setting κ)) key = none := rfl

lemma given_concat (xs : List (Setting κ)) (x : Setting κ) :
    given (xs ++ [x]) = Function.update (given xs) x.key (some x.text) := by
  funext key
  rw [given, List.map_append, Assignments.assignAll, List.foldl_append]
  by_cases heq : key = x.key
  · subst heq
    rw [Function.update_self]
    exact AList.lookup_insert _
  · rw [Function.update_of_ne heq]
    exact AList.lookup_insert_ne heq

lemma given_of_mem {xs : List (Setting κ)} (hkeys : (xs.map Setting.key).Nodup) {x : Setting κ}
    (hmem : x ∈ xs) : given xs x.key = some x.text := by
  have hpair : (x.key, x.text) ∈ xs.map fun x => (x.key, x.text) :=
    List.mem_map.mpr ⟨x, hmem, rfl⟩
  refine Assignments.lookup_assignAll_of_mem ?_ hpair ∅
  simpa [List.map_map, Function.comp_def] using hkeys

lemma given_eq_none_iff {xs : List (Setting κ)} {key : κ} :
    given xs key = none ↔ key ∉ xs.map Setting.key := by
  induction xs using List.reverseRecOn with
  | nil => simp
  | append_singleton xs x ih =>
      rw [given_concat]
      by_cases heq : key = x.key
      · subst heq
        simp
      · simp [ih, heq]

/-- **What the settings of some values assign** are those values. -/
lemma given_settingsOf {all : List κ} (hall : all.Nodup) (hmem : ∀ key, key ∈ all)
    (value : κ → Option (Option String)) (key : κ) :
    given (settingsOf all value) key = (value key).map (·.getD "") := by
  rcases hvalue : value key with _ | text
  · rw [given_eq_none_iff.mpr, Option.map_none]
    intro hkey
    obtain ⟨x, hx, rfl⟩ := List.mem_map.mp hkey
    rw [(mem_settingsOf.mp hx).2] at hvalue
    cases hvalue
  · have hx : ⟨key, text⟩ ∈ settingsOf all value := mem_settingsOf.mpr ⟨hmem key, hvalue⟩
    exact given_of_mem (nodup_settingsOf hall value) hx

/-- **Assigned in any order, the same is given**, if no option is set twice. -/
lemma given_perm {xs ys : List (Setting κ)} (hperm : xs.Perm ys)
    (hkeys : (xs.map Setting.key).Nodup) : given xs = given ys := by
  have hkeys' : (ys.map Setting.key).Nodup := ((hperm.map _).nodup_iff).mp hkeys
  funext key
  by_cases hmem : key ∈ xs.map Setting.key
  · obtain ⟨x, hx, rfl⟩ := List.mem_map.mp hmem
    rw [given_of_mem hkeys hx, given_of_mem hkeys' (hperm.subset hx)]
  · rw [given_eq_none_iff.mpr hmem, given_eq_none_iff.mpr]
    exact fun hmem' => hmem ((hperm.map _).symm.subset hmem')

namespace Grammar

variable {g : Grammar κ σ}

/-- The settings that the program accepts. -/
def Accepts (g : Grammar κ σ) (xs : List (Setting κ)) : Prop :=
  ∀ x ∈ xs, (g.update x).isSome = true

/-- **The state stands for the assignments**, when each update is one.  The induction takes the last
setting off. -/
theorem applyAll_iff (state : (κ → Option String) → σ)
    (hupdate : ∀ given x set, g.update x = some set →
      set (state given) = state (Function.update given x.key (some x.text)))
    {xs : List (Setting κ)} {s : σ} :
    g.applyAll xs (state fun _ => none) = some s ↔ g.Accepts xs ∧ s = state (given xs) := by
  induction xs using List.reverseRecOn generalizing s with
  | nil =>
      refine ⟨fun h => ⟨by simp [Accepts], (Option.some.inj h).symm⟩, ?_⟩
      rintro ⟨-, rfl⟩
      rfl
  | append_singleton xs x ih =>
      rw [applyAll_concat, Option.bind_eq_some_iff]
      constructor
      · rintro ⟨mid, hmid, hlast⟩
        obtain ⟨hall, rfl⟩ := ih.mp hmid
        obtain ⟨set, hset, rfl⟩ := Option.map_eq_some_iff.mp hlast
        refine ⟨fun y hy => ?_, ?_⟩
        · rcases List.mem_append.mp hy with hy | hy
          · exact hall y hy
          · rw [List.mem_singleton.mp hy, hset]
            rfl
        · rw [hupdate _ _ _ hset, given_concat]
      · rintro ⟨hall, rfl⟩
        obtain ⟨set, hset⟩ := Option.isSome_iff_exists.mp (hall x (by simp))
        refine ⟨_, ih.mpr ⟨fun y hy => hall y (by simp [hy]), rfl⟩, ?_⟩
        rw [hset, Option.map_some, hupdate _ _ _ hset, given_concat]

/-- **What a command line comes to**, in terms of what its settings assign; `launch` is what the
program does after the loop. -/
theorem launch_parse_iff {γ : Type*} (launch : Except Error (Option σ) → γ)
    (state : (κ → Option String) → σ)
    (hupdate : ∀ given x set, g.update x = some set →
      set (state given) = state (Function.update given x.key (some x.text)))
    {argv : List String} {result : γ} :
    launch (g.parse argv (state fun _ => none)) = result ↔ ∃ xs rest ending,
      argv = xs.flatMap (·.words g) ++ rest ∧ g.Accepts xs ∧ g.Ends rest ending ∧
        result = launch (ending.outcome (state (given xs))) := by
  constructor
  · rintro rfl
    obtain ⟨xs, rest, ending, s', hargv, happly, hends, houtcome⟩ := parse_eq_iff.mp
      (rfl : g.parse argv (state fun _ => none) = _)
    obtain ⟨haccepts, rfl⟩ := (applyAll_iff state hupdate).mp happly
    exact ⟨xs, rest, ending, hargv, haccepts, hends, congrArg launch houtcome⟩
  · rintro ⟨xs, rest, ending, hargv, haccepts, hends, rfl⟩
    exact congrArg launch (parse_eq_iff.mpr
      ⟨xs, rest, ending, _, hargv, (applyAll_iff state hupdate).mpr ⟨haccepts, rfl⟩, hends, rfl⟩)

/-- An option that was given is among the arguments. -/
lemma name_mem_of_given {xs : List (Setting κ)} {key : κ} (h : given xs key ≠ none) :
    g.name key ∈ xs.flatMap (·.words g) := by
  have hmem : key ∈ xs.map Setting.key := by
    by_contra hnot
    exact h (given_eq_none_iff.mpr hnot)
  obtain ⟨x, hx, rfl⟩ := List.mem_map.mp hmem
  exact List.mem_flatMap.mpr ⟨x, hx, List.mem_cons_self ..⟩

end Grammar

end CommandLine
