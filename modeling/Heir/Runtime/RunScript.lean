import Heir.Lib.ShellLines
import Heir.Runtime.Config

set_option autoImplicit false

/-! # The run scripts under a shell

The run script of a control-plane process replaces the shell by the binary, with one argument
`--key=value` on each line. `RenderRunScript` writes the keys and values as they are, so it depends
on their characters what the shell makes of them.

Main result: in every environment the shell executes the binary with exactly the arguments of the
merged map, in the order of the keys, if and only if no key and no value has a character with a
meaning for the shell. The default `*,tokencleaner` of the controller manager has one: it is a
pattern for names of files.
-/

namespace Heir.Runtime

open Heir.ControlPlane Heir.Core

/-! ## The script as lines -/

/-- The binaries in the scripts of `GenerateControlPlaneConfig`. -/
def binaryPath : Script → String
  | .apiServer => "/usr/local/bin/kube-apiserver"
  | .controllerManager => "/usr/local/bin/kube-controller-manager"
  | .scheduler => "/usr/local/bin/kube-scheduler"

/-- The arguments of a process, in the order of their keys. -/
def runArguments (o : GoMap.RangeOrder String) (args : GoMap String) : List String :=
  (GoMap.sortedKeys o args).map fun k => "--" ++ (k ++ "=" ++ args.getD k "")

theorem intercalate_joint (l : List (List Char)) (hne : l ≠ []) :
    [' ', '\\', '\n'] ++ [' ', '\\', '\n'].intercalate (l.map fun a => ' ' :: ' ' :: a) =
      l.flatMap (Shell.joint ++ ·) := by
  induction l with
  | nil => exact absurd rfl hne
  | cons a l ih =>
      cases l with
      | nil =>
          rw [List.map_singleton, List.intercalate_singleton, List.flatMap_singleton]
          rfl
      | cons b l =>
          rw [List.map_cons, List.map_cons, List.intercalate_cons_cons, List.flatMap_cons,
            ← ih (List.cons_ne_nil b l), List.map_cons]
          simp only [List.append_assoc]
          rfl

theorem exists_entry {args : GoMap String} (h : ¬ args.isEmpty = true) :
    ∃ k v : String, args[k]? = some v := by
  by_contra hnone
  push Not at hnone
  apply h
  rw [Std.ExtTreeMap.isEmpty_iff]
  apply Std.ExtTreeMap.ext_getElem?
  intro k
  rw [Std.ExtTreeMap.getElem?_empty]
  exact Option.eq_none_iff_forall_ne_some.mpr (hnone k)

theorem toList_renderRunScript (o : GoMap.RangeOrder String) (binary : String)
    (args : GoMap String) :
    (renderRunScript o binary args).toList =
      '#' :: ("!/bin/sh".toList ++ '\n' ::
        Shell.execLines binary.toList ((runArguments o args).map String.toList)) := by
  have hheader : ∀ s : String, ("#!/bin/sh\n" ++ s).toList =
      '#' :: ("!/bin/sh".toList ++ '\n' :: s.toList) := by
    intro s
    rw [String.toList_append]
    rfl
  have hexec : ("exec " ++ binary).toList = "exec".toList ++ ' ' :: binary.toList := by
    rw [String.toList_append]
    rfl
  rw [renderRunScript, hheader]
  congr 3
  by_cases hempty : args.isEmpty = true
  · have hkeys : GoMap.sortedKeys o args = [] := by
      rw [List.eq_nil_iff_forall_not_mem]
      intro k hk
      obtain ⟨v, hv⟩ := (GoMap.mem_sortedKeys o args k).mp hk
      rw [Std.ExtTreeMap.isEmpty_iff.mp hempty] at hv
      simp at hv
    rw [if_pos hempty, hexec, runArguments, hkeys]
    exact (List.append_nil _).symm
  · have hkeys : runArguments o args ≠ [] := by
      obtain ⟨k, v, hkv⟩ := exists_entry hempty
      have hmem := (GoMap.mem_sortedKeys o args k).mpr ⟨v, hkv⟩
      exact List.ne_nil_of_mem (List.mem_map_of_mem hmem)
    have hlines : ((GoMap.sortedKeys o args).map fun k =>
        "  --" ++ k ++ "=" ++ args.getD k "").map String.toList =
        ((runArguments o args).map String.toList).map fun a => ' ' :: ' ' :: a := by
      rw [runArguments, List.map_map, List.map_map, List.map_map]
      refine List.map_congr_left fun k _ => ?_
      simp only [Function.comp_apply, String.toList_append, List.append_assoc]
      rfl
    rw [if_neg hempty, String.toList_append, String.toList_append, hexec,
      String.toList_intercalate, hlines, List.append_assoc]
    show _ ++ ([' ', '\\', '\n'] ++ [' ', '\\', '\n'].intercalate _) = _
    rw [intercalate_joint _ (fun h => hkeys (List.map_eq_nil_iff.mp h))]
    rfl

/-! ## Plain arguments -/

/-- The shell takes the text `key=value` as it is: no character has a meaning for it, and the text
is no pattern for names of files. -/
def PlainArgument (text : String) : Prop :=
  Shell.isPlain text.toList = true ∧ Shell.isPattern (text.toList.map (·, false)) = false

instance (text : String) : Decidable (PlainArgument text) := inferInstanceAs (Decidable (_ ∧ _))

/-- In every environment, and whatever the exit status is, the one thing that is executed is `exec`
with the given arguments. -/
def ExecsOnly (sh : Shell.Dialect) (script : String) (argv : List String) : Prop :=
  ∀ env succeeds, Shell.run sh env succeeds script.toList =
    some [[{ argv := "exec".toList :: argv.map String.toList }]]

theorem plain_dashes (text : String) :
    (Shell.isPlain ("--" ++ text).toList = true ∧
      Shell.isPattern (("--" ++ text).toList.map (·, false)) = false) ↔ PlainArgument text := by
  rw [String.toList_append]
  rfl

theorem forall_runArguments (o : GoMap.RangeOrder String) (args : GoMap String)
    (P : String → Prop) :
    (∀ a ∈ runArguments o args, P a) ↔
      ∀ k v : String, args[k]? = some v → P ("--" ++ (k ++ "=" ++ v)) := by
  have hvalue : ∀ k v : String, args[k]? = some v → args.getD k "" = v := by
    intro k v hkv
    rw [Std.ExtTreeMap.getD_eq_getD_getElem?, hkv, Option.getD_some]
  constructor
  · intro h k v hkv
    have hmem := (GoMap.mem_sortedKeys o args k).mpr ⟨v, hkv⟩
    rw [← hvalue k v hkv]
    exact h _ (List.mem_map_of_mem hmem)
  · intro h a ha
    obtain ⟨k, hk, rfl⟩ := List.mem_map.mp ha
    obtain ⟨v, hkv⟩ := (GoMap.mem_sortedKeys o args k).mp hk
    rw [hvalue k v hkv]
    exact h k v hkv

/-- The paths of the binaries have no character with a meaning for the shell. -/
theorem binaryPath_plain (s : Script) :
    Shell.isPlainWord (binaryPath s).toList = true ∧
      Shell.isPattern ((binaryPath s).toList.map (·, false)) = false ∧
      (binaryPath s).toList.all Shell.isSolid = true := by
  cases s <;> decide

theorem renderRunScript_execs_iff (sh : Shell.Dialect) (o : GoMap.RangeOrder String) (s : Script)
    (args : GoMap String) :
    ExecsOnly sh (renderRunScript o (binaryPath s) args) (binaryPath s :: runArguments o args) ↔
      ∀ k v : String, args[k]? = some v → PlainArgument (k ++ "=" ++ v) := by
  obtain ⟨hword, hpattern, hsolid⟩ := binaryPath_plain s
  have hheader : '\n' ∉ "!/bin/sh".toList := by decide
  have hdash : ∀ a ∈ (runArguments o args).map String.toList, a.head? = some '-' := by
    intro a ha
    obtain ⟨text, htext, rfl⟩ := List.mem_map.mp ha
    obtain ⟨k, -, rfl⟩ := List.mem_map.mp htext
    rw [String.toList_append]
    rfl
  calc ExecsOnly sh (renderRunScript o (binaryPath s) args) (binaryPath s :: runArguments o args)
      ↔ ∀ env succeeds, Shell.run sh env succeeds
          (Shell.execLines (binaryPath s).toList ((runArguments o args).map String.toList)) =
          some [[{ argv := "exec".toList :: (binaryPath s).toList ::
            (runArguments o args).map String.toList }]] := by
        refine forall₂_congr fun env succeeds => ?_
        rw [toList_renderRunScript, Shell.run_comment env succeeds hheader, List.map_cons]
    _ ↔ ∀ a ∈ (runArguments o args).map String.toList,
          Shell.isPlain a = true ∧ Shell.isPattern (a.map (·, false)) = false :=
        Shell.run_execLines_iff hword hpattern (List.all_eq_true.mp hsolid) hdash
    _ ↔ ∀ a ∈ runArguments o args,
          Shell.isPlain a.toList = true ∧ Shell.isPattern (a.toList.map (·, false)) = false :=
        List.forall_mem_map
    _ ↔ ∀ k v : String, args[k]? = some v → PlainArgument (k ++ "=" ++ v) := by
        rw [forall_runArguments]
        exact forall₃_congr fun k v _ => plain_dashes (k ++ "=" ++ v)

/-- A process is started with exactly the arguments of the merged map, one for each entry and in the
order of the keys, and nothing else is executed, if and only if the shell takes each of them as it
is. -/
theorem run_script_execs_iff (sh : Shell.Dialect) (o : Orders) (s : Script)
    (defaults extra : GoMap String) :
    ExecsOnly sh (runScript o s (binaryPath s) defaults extra)
        (binaryPath s :: runArguments (o (.scriptKeys s))
          (mergeArgs (o (.mergeDefaults s)) (o (.mergeExtra s)) defaults extra)) ↔
      ∀ k v : String,
        (mergeArgs (o (.mergeDefaults s)) (o (.mergeExtra s)) defaults extra)[k]? = some v →
          PlainArgument (k ++ "=" ++ v) :=
  renderRunScript_execs_iff sh (o (.scriptKeys s)) s _

/-- Arguments with a blank in a value. -/
def blankArgs : GoMap String := mapOf [("config", "/etc/kube scheduler.yaml"), ("v", "2")]

/-- The value with a blank becomes two arguments. -/
theorem config_blank_split :
    runArguments .byKey (mergeArgs .byKey .byKey ∅ blankArgs) =
        ["--config=/etc/kube scheduler.yaml", "--v=2"] ∧
      Shell.run ⟨fun _ => none⟩ Shell.emptyEnv (fun _ => true)
          (runScript (fun _ => .byKey) .scheduler (binaryPath .scheduler) ∅ blankArgs).toList =
        some [[{ argv := ["exec", "/usr/local/bin/kube-scheduler", "--config=/etc/kube",
          "scheduler.yaml", "--v=2"].map String.toList }]] ∧
      ¬ ExecsOnly ⟨fun _ => none⟩
          (runScript (fun _ => .byKey) .scheduler (binaryPath .scheduler) ∅ blankArgs)
          (binaryPath .scheduler :: runArguments .byKey (mergeArgs .byKey .byKey ∅ blankArgs)) := by
  have hargs : runArguments .byKey (mergeArgs .byKey .byKey ∅ blankArgs) =
      ["--config=/etc/kube scheduler.yaml", "--v=2"] := by decide +kernel
  have hrun : Shell.run ⟨fun _ => none⟩ Shell.emptyEnv (fun _ => true)
      (runScript (fun _ => .byKey) .scheduler (binaryPath .scheduler) ∅ blankArgs).toList =
      some [[{ argv := ["exec", "/usr/local/bin/kube-scheduler", "--config=/etc/kube",
        "scheduler.yaml", "--v=2"].map String.toList }]] := by decide +kernel
  refine ⟨hargs, hrun, fun h => ?_⟩
  have hsame := hrun.symm.trans (h Shell.emptyEnv fun _ => true)
  rw [hargs] at hsame
  exact absurd hsame (by decide +kernel)

end Heir.Runtime
