import Heir.Lib.Shell
import Heir.Runtime.HelmExpansion

set_option autoImplicit false

/-! # The commands that the Jobs of a HelmChart run

The container of a Job runs the argument vectors of `Command`: a single one directly, several of
them by a shell, in a script of commands that are quoted and joined by `&&`. When the chart has
values, the script first decodes them from the environment into a file.

Main result: whatever the texts of the HelmChart are, the shell executes the decoding pipeline and
then exactly these argument vectors, in their order, as long as they succeed.
-/

namespace Heir.Runtime

open Heir.Core Heir.ClusterAgent

/-! ## The container -/

/-- The environment of a shell in a container. -/
def containerEnv (base : Shell.Env) (env : List EnvVar) : Shell.Env where
  value
    | '$' :: name => (envValue env name).getD (base.value ('$' :: name))
    | text => base.value text
  matching := base.matching

/-- The pipelines that a container executes: those of the script if its command is that of a shell,
and otherwise the command itself. -/
def runContainer (sh : Shell.Dialect) (base : Shell.Env) (succeeds : Nat → Bool) (c : Container) :
    Option (List (List Shell.Command)) :=
  if c.command.take 2 = ["sh", "-c"] then
    Shell.run sh (containerEnv base c.env) succeeds ((c.command.drop 2).headD "").toList
  else some [[{ argv := c.command.map String.toList }]]

theorem runContainer_script {sh : Shell.Dialect} (base : Shell.Env) (succeeds : Nat → Bool)
    {c : Container} {script : String} (h : c.command = ["sh", "-c", script]) :
    runContainer sh base succeeds c =
      Shell.run sh (containerEnv base c.env) succeeds script.toList := by
  rw [runContainer, h]
  rfl

theorem containerEnv_value (base : Shell.Env) (env : List EnvVar) (name : List Char) :
    (containerEnv base env).value ('$' :: name) =
      (envValue env name).getD (base.value ('$' :: name)) := rfl

theorem envValue_second (e : EnvVar) (name value : String) :
    envValue [e, { name := name, value := value }] name.toList = some value.toList := by
  simp [envValue]

/-! ## Quoting -/

theorem toList_shellQuote (arg : String) : (shellQuote arg).toList = Shell.quote arg.toList := by
  rw [shellQuote, String.toList_append, String.toList_append]
  exact congrArg (fun body => "'".toList ++ body ++ "'".toList) String.toList_ofList

theorem toList_shellJoin (args : List String) :
    (shellJoin args).toList = Shell.quoteAll (args.map String.toList) := by
  have hquotes : (args.map shellQuote).map String.toList = (args.map String.toList).map Shell.quote := by
    rw [List.map_map, List.map_map]
    exact List.map_congr_left fun arg _ => toList_shellQuote arg
  rw [shellJoin, String.toList_intercalate, hquotes]
  rfl

theorem toList_steps (steps : List (List String)) :
    (steps.map shellJoin).map String.toList =
      (steps.map fun args => args.map String.toList).map Shell.quoteAll := by
  rw [List.map_map, List.map_map]
  exact List.map_congr_left fun args _ => toList_shellJoin args

/-! ## Decoding the values -/

/-- The pipeline that decodes the values, for an environment with the given text. -/
def decodePipeline (values : List Char) : List Shell.Command :=
  [{ argv := ["echo".toList, values] },
   { argv := ["base64".toList, "-d".toList]
     redirects := [([], .output, helmValuesFile.toList)] }]

/-- The words of the pipeline before they are expanded. -/
def decodeSimples : List Shell.Simple :=
  [{ words := [Shell.litWord "echo".toList,
      [.mark '"', .expansion "$HELM_VALUES".toList true, .mark '"']] },
   { words := [Shell.litWord "base64".toList, Shell.litWord "-d".toList]
     redirects := [([], .output, Shell.litWord helmValuesFile.toList)] }]

def decodeTokens : List Shell.Token :=
  [.word (Shell.litWord "echo".toList),
   .word [.mark '"', .expansion "$HELM_VALUES".toList true, .mark '"'],
   .op .bar, .word (Shell.litWord "base64".toList), .word (Shell.litWord "-d".toList),
   .redirect [] .output, .word (Shell.litWord helmValuesFile.toList)]

def decodeText : String := "echo \"$HELM_VALUES\" | base64 -d > /tmp/values.yaml"

variable {sh : Shell.Dialect}

theorem lex_values_blank (rest : List Char) :
    Shell.lex sh ("\"$HELM_VALUES\"".toList ++ ' ' :: rest) =
      (Shell.lex sh rest).map
        (.word [.mark '"', .expansion "$HELM_VALUES".toList true, .mark '"'] :: ·) := by
  refine Shell.lex_word_blank (List.cons_ne_nil _ _) rfl ?_
  show (((Shell.scan sh 0 .plain true (' ' :: rest)).map _).map _).map _ = _
  rw [Option.map_map, Option.map_map]
  rfl

theorem lex_bar_blank (rest : List Char) :
    Shell.lex sh ('|' :: ' ' :: rest) = (Shell.lex sh rest).map (.op .bar :: ·) := by
  show ((((Shell.scan sh 0 .plain false rest).map _)).map _).map _ =
    ((Shell.scan sh 0 .plain false rest).map _).map _
  rw [Option.map_map, Option.map_map, Option.map_map]
  rfl

theorem lex_great_blank (rest : List Char) :
    Shell.lex sh ('>' :: ' ' :: rest) = (Shell.lex sh rest).map (.redirect [] .output :: ·) := by
  show ((((Shell.scan sh 0 .plain false rest).map _)).map _).map _ =
    ((Shell.scan sh 0 .plain false rest).map _).map _
  rw [Option.map_map, Option.map_map, Option.map_map]
  rfl

theorem lex_decode (rest : List Char) :
    Shell.lex sh (decodeText.toList ++ ' ' :: rest) =
      (Shell.lex sh rest).map (decodeTokens ++ ·) := by
  have htext : decodeText.toList ++ ' ' :: rest =
      "echo".toList ++ ' ' :: ("\"$HELM_VALUES\"".toList ++ ' ' :: ('|' :: ' ' ::
        ("base64".toList ++ ' ' :: ("-d".toList ++ ' ' :: ('>' :: ' ' ::
          (helmValuesFile.toList ++ ' ' :: rest)))))) := rfl
  rw [htext, Shell.lex_plainWord_blank (by decide), lex_values_blank, lex_bar_blank,
    Shell.lex_plainWord_blank (by decide), Shell.lex_plainWord_blank (by decide), lex_great_blank,
    Shell.lex_plainWord_blank (by decide)]
  simp only [Option.map_map]
  rfl

theorem parse_decode (ts : List Shell.Token) :
    Shell.parse false [] {} (decodeTokens ++ .op .andIf :: ts) =
      (Shell.parse true [] {} ts).map ((decodeSimples, .andIf) :: ·) := rfl

theorem expand_decode (env : Shell.Env) {values : List Char}
    (henv : env.value "$HELM_VALUES".toList = values) :
    decodeSimples.map (Shell.expandSimple env) = decodePipeline values := by
  have hvalues : Shell.expandWord env
      [.mark '"', .expansion "$HELM_VALUES".toList true, .mark '"'] = [values] := by
    have hcells : Shell.splitFields none (List.flatMap (Shell.Item.cells env)
        [.mark '"', .expansion "$HELM_VALUES".toList true, .mark '"']) =
        [values.map (·, true)] := by
      rw [← henv]
      exact Shell.splitFields_chars true (env.value "$HELM_VALUES".toList) [] [.keep]
    rw [Shell.expandWord, hcells, List.flatMap_singleton, Shell.pathnames_quoted]
  show [Shell.Command.mk ("echo".toList :: (Shell.expandWord env _ ++ [])) [] [], _] = _
  rw [hvalues]
  rfl

/-! ## The script -/

theorem run_decode_steps (env : Shell.Env) (succeeds : Nat → Bool) {values : List Char}
    (henv : env.value "$HELM_VALUES".toList = values) {steps : List (List (List Char))}
    (hne : steps ≠ []) (hargs : ∀ args ∈ steps, args ≠ [])
    (hexec : ∀ args ∈ steps, args.head? ≠ some "exec".toList) :
    Shell.run sh env succeeds (decodeText.toList ++ ([' ', '&', '&', ' '] ++
        [' ', '&', '&', ' '].intercalate (steps.map Shell.quoteAll))) =
      some (Shell.untilFailure succeeds 0
        (decodePipeline values :: steps.map fun args => [{ argv := args }])) := by
  have hscript : Shell.lex sh (decodeText.toList ++ ([' ', '&', '&', ' '] ++
      [' ', '&', '&', ' '].intercalate (steps.map Shell.quoteAll))) =
      some (decodeTokens ++ .op .andIf :: Shell.stepTokens steps) := by
    rw [List.cons_append, lex_decode, List.cons_append, List.cons_append, Shell.lex_andIf,
      List.cons_append, Shell.lex_blank, List.nil_append, Shell.lex_steps hne hargs]
    rfl
  rw [Shell.run, hscript, Option.bind_some, parse_decode, Shell.parse_steps hne hargs,
    Option.map_some, Option.map_some, Shell.execute, expand_decode env henv, Shell.untilFailure]
  cases hok : succeeds 0 with
  | true =>
      show some ([_] ++ Shell.execute env succeeds 1 true true (Shell.stepScript steps)) = _
      rw [Shell.execute_steps env succeeds hexec]
      rfl
  | false =>
      show some ([_] ++ Shell.execute env succeeds 1 false false (Shell.stepScript steps)) = _
      rw [Shell.execute_skip_steps]
      rfl

/-! ## The Jobs -/

/-- The pipelines of a Job, in order: the values are decoded, and then the commands are run. -/
def jobPipelines (helmChart : HelmChart) (operation : JobOperation) : List (List Shell.Command) :=
  (if helmChart.spec.values.content ≠ "" ∧ operation ≠ .teardown then
    [decodePipeline (base64Encode (bytes helmChart.spec.values.content))]
  else []) ++
    (command helmChart operation).map fun args => [{ argv := args.map String.toList }]

theorem command_ne_nil (helmChart : HelmChart) (operation : JobOperation) :
    command helmChart operation ≠ [] := by
  cases operation <;> exact List.cons_ne_nil _ _

theorem head_command (helmChart : HelmChart) (operation : JobOperation) :
    ∀ args ∈ command helmChart operation, args.head? = some "helm" := by
  intro args hargs
  cases operation with
  | install =>
      rcases List.mem_cons.mp hargs with rfl | hargs
      · rfl
      · rw [List.mem_singleton.mp hargs]
        rfl
  | teardown =>
      rw [List.mem_singleton.mp hargs]
      rfl

/-- The arguments of the commands, as the shell sees them. -/
def commandChars (helmChart : HelmChart) (operation : JobOperation) : List (List (List Char)) :=
  (command helmChart operation).map fun args => args.map String.toList

theorem commandChars_ne_nil (helmChart : HelmChart) (operation : JobOperation) :
    commandChars helmChart operation ≠ [] := by
  intro h
  exact command_ne_nil helmChart operation (List.map_eq_nil_iff.mp h)

theorem head_commandChars {helmChart : HelmChart} {operation : JobOperation} {args : List (List Char)}
    (hargs : args ∈ commandChars helmChart operation) : args.head? = some "helm".toList := by
  obtain ⟨words, hwords, rfl⟩ := List.mem_map.mp hargs
  rw [List.head?_map, head_command helmChart operation words hwords]
  rfl

theorem containerCommand_script (decode : String) (step step' : List String)
    (steps : List (List String)) :
    containerCommand decode (step :: step' :: steps) = ["sh", "-c", " && ".intercalate
      ((if decode ≠ "" then [decode] else []) ++ (step :: step' :: steps).map shellJoin)] := by
  rw [containerCommand]
  intro s hs h
  cases h

theorem toList_script (helmChart : HelmChart) (decode : List String) :
    (" && ".intercalate (decode ++ (command helmChart .install).map shellJoin)).toList =
      [' ', '&', '&', ' '].intercalate (decode.map String.toList ++
        (commandChars helmChart .install).map Shell.quoteAll) := by
  rw [String.toList_intercalate, List.map_append, toList_steps]
  rfl

theorem run_install_script (base : Shell.Env) (succeeds : Nat → Bool) (helmChart : HelmChart) :
    Shell.run sh (containerEnv base (jobEnv helmChart .install)) succeeds
        (" && ".intercalate ((if decodeStep helmChart .install ≠ "" then
          [decodeStep helmChart .install] else []) ++
          (command helmChart .install).map shellJoin)).toList =
      some (Shell.untilFailure succeeds 0 (jobPipelines helmChart .install)) := by
  have hargs : ∀ args ∈ commandChars helmChart .install, args ≠ [] := by
    rintro args hargs rfl
    cases head_commandChars hargs
  have hexec : ∀ args ∈ commandChars helmChart .install, args.head? ≠ some "exec".toList := by
    intro args hargs
    rw [head_commandChars hargs]
    decide
  have hcommands : (command helmChart .install).map (fun args =>
      [({ argv := args.map String.toList } : Shell.Command)]) =
      (commandChars helmChart .install).map fun args => [{ argv := args }] := by
    rw [commandChars, List.map_map]
    rfl
  rw [toList_script, jobPipelines, hcommands]
  by_cases hcontent : helmChart.spec.values.content ≠ ""
  · have hvalues : helmChart.spec.values.content ≠ "" ∧ JobOperation.install ≠ .teardown :=
      ⟨hcontent, by decide⟩
    have hdecode : decodeStep helmChart .install = decodeText := by
      rw [decodeStep, if_pos hvalues]
      rfl
    have henv : (containerEnv base (jobEnv helmChart .install)).value "$HELM_VALUES".toList =
        base64Encode (bytes helmChart.spec.values.content) := by
      have hname : "$HELM_VALUES".toList = '$' :: helmValuesEnvVar.toList := by decide
      rw [hname, containerEnv_value, jobEnv, if_pos hvalues, List.singleton_append, envValue_second, Option.getD_some,
        String.toList_ofList]
    obtain ⟨args, rest, hsteps⟩ :=
      List.exists_cons_of_ne_nil (commandChars_ne_nil helmChart .install)
    rw [hdecode, if_pos (by decide), if_pos hvalues]
    have hrun : Shell.run sh _ succeeds _ = _ := run_decode_steps _ succeeds henv
      (commandChars_ne_nil helmChart .install) hargs hexec
    rw [hsteps] at hrun ⊢
    exact hrun
  · have hvalues : ¬ (helmChart.spec.values.content ≠ "" ∧ JobOperation.install ≠ .teardown) :=
      fun h => hcontent h.1
    have hdecode : decodeStep helmChart .install = "" := if_neg hvalues
    rw [hdecode, if_neg (fun h => h rfl), if_neg hvalues]
    exact Shell.run_steps _ succeeds (commandChars_ne_nil helmChart .install) hargs hexec

/-- The container of a Job decodes the values, if there are any, and then executes exactly the
argument vectors of the commands, in their order, up to the first one that fails. -/
theorem helm_job_executes_commands (sh : Shell.Dialect) (base : Shell.Env) (succeeds : Nat → Bool)
    (helmChart : HelmChart) (operation : JobOperation) :
    ∃ job c, generateJob helmChart operation = .ok job ∧
      job.spec.template.spec.containers = [c] ∧
      runContainer sh base succeeds c =
        some (Shell.untilFailure succeeds 0 (jobPipelines helmChart operation)) := by
  obtain ⟨job, hjob, c, hcontainers, -, henv, hcommand⟩ := generateJob_container helmChart operation
  refine ⟨job, c, hjob, hcontainers, ?_⟩
  cases operation with
  | install =>
      have hscript : jobCommand helmChart .install = ["sh", "-c", " && ".intercalate
          ((if decodeStep helmChart .install ≠ "" then [decodeStep helmChart .install] else []) ++
            (command helmChart .install).map shellJoin)] := containerCommand_script _ _ _ _
      rw [runContainer_script base succeeds (hcommand.trans hscript), henv]
      exact run_install_script base succeeds helmChart
  | teardown =>
      -- one command, which is run without a shell
      have hdecode : decodeStep helmChart .teardown = "" := if_neg fun h => h.2 rfl
      have hsingle : jobCommand helmChart .teardown =
          ((command helmChart .teardown).headD []) := by
        rw [jobCommand, hdecode]
        rfl
      have hpipelines : jobPipelines helmChart .teardown =
          [[{ argv := ((command helmChart .teardown).headD []).map String.toList }]] := by
        rw [jobPipelines, if_neg fun h => h.2 rfl]
        rfl
      have hhelm : ¬ (jobCommand helmChart .teardown).take 2 = ["sh", "-c"] := by
        rw [hsingle]
        intro h
        exact absurd (congrArg List.head? h) (show some "helm" ≠ some "sh" by decide)
      rw [runContainer, hcommand, if_neg hhelm, hpipelines, hsingle, Shell.untilFailure,
        Shell.untilFailure, ite_self]

end Heir.Runtime
