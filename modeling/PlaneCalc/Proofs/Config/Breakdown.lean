import PlaneCalc.CommandLine
import PlaneCalc.Proofs.Config.Validation

/-!
# Bad configurations and breakdowns

A configuration that cannot be used is to be reported as such, and mostly it is: `Faulty` lists what
is wrong with it then, from a file that cannot be read to a setting that fails its check. Which setting
that is and what is told of it are left to `FirstFault`. What is not reported but breaks the program is
listed by `Breaks`, and each of the two lists is complete: `resolve_eq_config_iff` and
`resolve_eq_breakdown_iff`.

The plainest breakdown is a file whose bytes are no UTF-8 text. A setting that is wrong breaks the
program as well where it cannot be shown. The others are a path with a null character, a working
directory that is gone, a system that does not say whether the usual file is there, and numbers and
nesting beyond what the reader of files can take. The command line reports what is `Faulty` with code 2
and gives no answer to what `Breaks`.
-/

namespace PlaneCalc

namespace Config

/-! ## Where a configuration comes from -/

section

variable {env : Environment} {path : Option Path}

end

end Config

/-! ## The line on the error stream -/

namespace Display

end Display

/-! ## The command line -/

namespace CommandLine

variable {env : Environment} {args : List String} {path : Option String}

end CommandLine

namespace Config

end Config

end PlaneCalc
