import Heir.Api.Core

set_option autoImplicit false

/-! # Jobs, and the permissions they run with -/

namespace Heir.Core

/-! ## Jobs -/

inductive CompletionMode where
  | nonIndexed
  | indexed
  deriving DecidableEq, Repr

inductive JobConditionType where
  | suspended
  | complete
  | failed
  | failureTarget
  | successCriteriaMet
  deriving DecidableEq, Repr

structure JobCondition where
  type : JobConditionType
  status : ConditionStatus
  deriving DecidableEq, Repr

structure JobSpec where
  backoffLimit : Option Int32
  completions : Option Int32
  completionMode : Option CompletionMode
  parallelism : Option Int32
  template : PodTemplateSpec

structure JobStatus where
  conditions : List JobCondition := []

structure Job where
  metadata : ObjectMeta
  spec : JobSpec
  status : JobStatus := {}

/-! ## Permissions -/

structure ServiceAccount where
  metadata : ObjectMeta

structure RoleRef where
  apiGroup : String
  kind : String
  name : String
  deriving DecidableEq, Repr

structure Subject where
  kind : String
  name : String
  ns : String
  deriving DecidableEq, Repr

structure ClusterRoleBinding where
  metadata : ObjectMeta
  roleRef : RoleRef
  subjects : List Subject

end Heir.Core
