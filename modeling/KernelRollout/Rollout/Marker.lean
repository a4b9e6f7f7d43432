import KernelRollout.Resource.Metadata

namespace KernelRollout

-- Labels that record where a node is in the rollout of one resource.
inductive Marker where
  -- The version of the kernel module requested on the node.
  | loader
  -- The version of the SFC module requested on the node.
  | sfc
  -- The version of the userland that may be used on the node.
  | ready
deriving DecidableEq, Repr

namespace Marker

def loaderLead : String := "kmm.node.kubernetes.io/version-module."

def readyLead : String := "onload.amd.com/"

-- Keys hold the namespace and the name of the resource, so that resources do not share markers.
def key (id : Identity) : Marker → String
  | loader => loaderLead ++ id.ns ++ "." ++ id.name ++ "-module"
  | sfc    => loaderLead ++ id.ns ++ "." ++ id.name ++ "-sfcmodule"
  | ready  => readyLead ++ id.ns ++ "." ++ id.name

end Marker

-- Label of loader pods, with the name of the module that they load.
def loaderPodLabel : String := "kmm.node.kubernetes.io/module.name"

-- Label of the pods of an operand.
def operandNameLabel : String := "onload.amd.com/name"

-- Label of an operand, with its version.
def operandVersionLabel : String := "onload.amd.com/version"

-- The resource that pods request to use Onload.
def onloadResource : String := "amd.com/onload"

end KernelRollout
