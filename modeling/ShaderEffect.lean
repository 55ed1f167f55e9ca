import ShaderEffect.Files.Tree
import ShaderEffect.Main
import ShaderEffect.Proofs.Document.Extents
import ShaderEffect.Proofs.Document.Naming
import ShaderEffect.Proofs.Document.Passes
import ShaderEffect.Proofs.Expr.Dependence
import ShaderEffect.Proofs.Expr.Height
import ShaderEffect.Proofs.Expr.Nesting
import ShaderEffect.Proofs.Expr.Parse
import ShaderEffect.Proofs.Host.Ownership
import ShaderEffect.Proofs.Metadata.Comment
import ShaderEffect.Proofs.Metadata.Integers
import ShaderEffect.Proofs.Pool.Atomic
import ShaderEffect.Proofs.Pool.Expiry
import ShaderEffect.Proofs.Program.Idempotent
import ShaderEffect.Proofs.Program.Names
import ShaderEffect.Proofs.Program.Splitting
import ShaderEffect.Proofs.Program.Versions
import ShaderEffect.Proofs.Scene.Allocatable
import ShaderEffect.Proofs.Scene.Events
import ShaderEffect.Proofs.Scene.Failures
import ShaderEffect.Proofs.Scene.Feedback
import ShaderEffect.Proofs.Scene.Kinds
import ShaderEffect.Proofs.Scene.Returning
import ShaderEffect.Proofs.Scene.Routine
import ShaderEffect.Proofs.Scene.Variables
