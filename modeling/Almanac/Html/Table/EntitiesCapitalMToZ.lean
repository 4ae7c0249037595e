/-!
# Table: named characters, capital letters M to Z

The names of character references that begin with the capital letters M to Z, each with the
code points that it stands for. A few names may also be written without the
semicolon and are listed both ways.
-/

namespace Almanac.Html.Table

/-- Named characters that begin with the capital letters M to Z. -/
def capitalMToZ : List (String × List Nat) := [
  ("Map;", [10501]), ("Mcy;", [1052]), ("MediumSpace;", [8287]), ("Mellintrf;", [8499]),
  ("Mfr;", [120080]), ("MinusPlus;", [8723]), ("Mopf;", [120132]), ("Mscr;", [8499]),
  ("Mu;", [924]), ("NJcy;", [1034]), ("Nacute;", [323]), ("Ncaron;", [327]), ("Ncedil;", [325]),
  ("Ncy;", [1053]), ("NegativeMediumSpace;", [8203]), ("NegativeThickSpace;", [8203]),
  ("NegativeThinSpace;", [8203]), ("NegativeVeryThinSpace;", [8203]),
  ("NestedGreaterGreater;", [8811]), ("NestedLessLess;", [8810]), ("NewLine;", [10]),
  ("Nfr;", [120081]), ("NoBreak;", [8288]), ("NonBreakingSpace;", [160]), ("Nopf;", [8469]),
  ("Not;", [10988]), ("NotCongruent;", [8802]), ("NotCupCap;", [8813]),
  ("NotDoubleVerticalBar;", [8742]), ("NotElement;", [8713]), ("NotEqual;", [8800]),
  ("NotEqualTilde;", [8770, 824]), ("NotExists;", [8708]), ("NotGreater;", [8815]),
  ("NotGreaterEqual;", [8817]), ("NotGreaterFullEqual;", [8807, 824]),
  ("NotGreaterGreater;", [8811, 824]), ("NotGreaterLess;", [8825]),
  ("NotGreaterSlantEqual;", [10878, 824]), ("NotGreaterTilde;", [8821]),
  ("NotHumpDownHump;", [8782, 824]), ("NotHumpEqual;", [8783, 824]), ("NotLeftTriangle;", [8938]),
  ("NotLeftTriangleBar;", [10703, 824]), ("NotLeftTriangleEqual;", [8940]), ("NotLess;", [8814]),
  ("NotLessEqual;", [8816]), ("NotLessGreater;", [8824]), ("NotLessLess;", [8810, 824]),
  ("NotLessSlantEqual;", [10877, 824]), ("NotLessTilde;", [8820]),
  ("NotNestedGreaterGreater;", [10914, 824]), ("NotNestedLessLess;", [10913, 824]),
  ("NotPrecedes;", [8832]), ("NotPrecedesEqual;", [10927, 824]),
  ("NotPrecedesSlantEqual;", [8928]), ("NotReverseElement;", [8716]),
  ("NotRightTriangle;", [8939]), ("NotRightTriangleBar;", [10704, 824]),
  ("NotRightTriangleEqual;", [8941]), ("NotSquareSubset;", [8847, 824]),
  ("NotSquareSubsetEqual;", [8930]), ("NotSquareSuperset;", [8848, 824]),
  ("NotSquareSupersetEqual;", [8931]), ("NotSubset;", [8834, 8402]), ("NotSubsetEqual;", [8840]),
  ("NotSucceeds;", [8833]), ("NotSucceedsEqual;", [10928, 824]),
  ("NotSucceedsSlantEqual;", [8929]), ("NotSucceedsTilde;", [8831, 824]),
  ("NotSuperset;", [8835, 8402]), ("NotSupersetEqual;", [8841]), ("NotTilde;", [8769]),
  ("NotTildeEqual;", [8772]), ("NotTildeFullEqual;", [8775]), ("NotTildeTilde;", [8777]),
  ("NotVerticalBar;", [8740]), ("Nscr;", [119977]), ("Ntilde", [209]), ("Ntilde;", [209]),
  ("Nu;", [925]), ("OElig;", [338]), ("Oacute", [211]), ("Oacute;", [211]), ("Ocirc", [212]),
  ("Ocirc;", [212]), ("Ocy;", [1054]), ("Odblac;", [336]), ("Ofr;", [120082]), ("Ograve", [210]),
  ("Ograve;", [210]), ("Omacr;", [332]), ("Omega;", [937]), ("Omicron;", [927]),
  ("Oopf;", [120134]), ("OpenCurlyDoubleQuote;", [8220]), ("OpenCurlyQuote;", [8216]),
  ("Or;", [10836]), ("Oscr;", [119978]), ("Oslash", [216]), ("Oslash;", [216]), ("Otilde", [213]),
  ("Otilde;", [213]), ("Otimes;", [10807]), ("Ouml", [214]), ("Ouml;", [214]),
  ("OverBar;", [8254]), ("OverBrace;", [9182]), ("OverBracket;", [9140]),
  ("OverParenthesis;", [9180]), ("PartialD;", [8706]), ("Pcy;", [1055]), ("Pfr;", [120083]),
  ("Phi;", [934]), ("Pi;", [928]), ("PlusMinus;", [177]), ("Poincareplane;", [8460]),
  ("Popf;", [8473]), ("Pr;", [10939]), ("Precedes;", [8826]), ("PrecedesEqual;", [10927]),
  ("PrecedesSlantEqual;", [8828]), ("PrecedesTilde;", [8830]), ("Prime;", [8243]),
  ("Product;", [8719]), ("Proportion;", [8759]), ("Proportional;", [8733]), ("Pscr;", [119979]),
  ("Psi;", [936]), ("QUOT", [34]), ("QUOT;", [34]), ("Qfr;", [120084]), ("Qopf;", [8474]),
  ("Qscr;", [119980]), ("RBarr;", [10512]), ("REG", [174]), ("REG;", [174]), ("Racute;", [340]),
  ("Rang;", [10219]), ("Rarr;", [8608]), ("Rarrtl;", [10518]), ("Rcaron;", [344]),
  ("Rcedil;", [342]), ("Rcy;", [1056]), ("Re;", [8476]), ("ReverseElement;", [8715]),
  ("ReverseEquilibrium;", [8651]), ("ReverseUpEquilibrium;", [10607]), ("Rfr;", [8476]),
  ("Rho;", [929]), ("RightAngleBracket;", [10217]), ("RightArrow;", [8594]),
  ("RightArrowBar;", [8677]), ("RightArrowLeftArrow;", [8644]), ("RightCeiling;", [8969]),
  ("RightDoubleBracket;", [10215]), ("RightDownTeeVector;", [10589]),
  ("RightDownVector;", [8642]), ("RightDownVectorBar;", [10581]), ("RightFloor;", [8971]),
  ("RightTee;", [8866]), ("RightTeeArrow;", [8614]), ("RightTeeVector;", [10587]),
  ("RightTriangle;", [8883]), ("RightTriangleBar;", [10704]), ("RightTriangleEqual;", [8885]),
  ("RightUpDownVector;", [10575]), ("RightUpTeeVector;", [10588]), ("RightUpVector;", [8638]),
  ("RightUpVectorBar;", [10580]), ("RightVector;", [8640]), ("RightVectorBar;", [10579]),
  ("Rightarrow;", [8658]), ("Ropf;", [8477]), ("RoundImplies;", [10608]),
  ("Rrightarrow;", [8667]), ("Rscr;", [8475]), ("Rsh;", [8625]), ("RuleDelayed;", [10740]),
  ("SHCHcy;", [1065]), ("SHcy;", [1064]), ("SOFTcy;", [1068]), ("Sacute;", [346]),
  ("Sc;", [10940]), ("Scaron;", [352]), ("Scedil;", [350]), ("Scirc;", [348]), ("Scy;", [1057]),
  ("Sfr;", [120086]), ("ShortDownArrow;", [8595]), ("ShortLeftArrow;", [8592]),
  ("ShortRightArrow;", [8594]), ("ShortUpArrow;", [8593]), ("Sigma;", [931]),
  ("SmallCircle;", [8728]), ("Sopf;", [120138]), ("Sqrt;", [8730]), ("Square;", [9633]),
  ("SquareIntersection;", [8851]), ("SquareSubset;", [8847]), ("SquareSubsetEqual;", [8849]),
  ("SquareSuperset;", [8848]), ("SquareSupersetEqual;", [8850]), ("SquareUnion;", [8852]),
  ("Sscr;", [119982]), ("Star;", [8902]), ("Sub;", [8912]), ("Subset;", [8912]),
  ("SubsetEqual;", [8838]), ("Succeeds;", [8827]), ("SucceedsEqual;", [10928]),
  ("SucceedsSlantEqual;", [8829]), ("SucceedsTilde;", [8831]), ("SuchThat;", [8715]),
  ("Sum;", [8721]), ("Sup;", [8913]), ("Superset;", [8835]), ("SupersetEqual;", [8839]),
  ("Supset;", [8913]), ("THORN", [222]), ("THORN;", [222]), ("TRADE;", [8482]),
  ("TSHcy;", [1035]), ("TScy;", [1062]), ("Tab;", [9]), ("Tau;", [932]), ("Tcaron;", [356]),
  ("Tcedil;", [354]), ("Tcy;", [1058]), ("Tfr;", [120087]), ("Therefore;", [8756]),
  ("Theta;", [920]), ("ThickSpace;", [8287, 8202]), ("ThinSpace;", [8201]), ("Tilde;", [8764]),
  ("TildeEqual;", [8771]), ("TildeFullEqual;", [8773]), ("TildeTilde;", [8776]),
  ("Topf;", [120139]), ("TripleDot;", [8411]), ("Tscr;", [119983]), ("Tstrok;", [358]),
  ("Uacute", [218]), ("Uacute;", [218]), ("Uarr;", [8607]), ("Uarrocir;", [10569]),
  ("Ubrcy;", [1038]), ("Ubreve;", [364]), ("Ucirc", [219]), ("Ucirc;", [219]), ("Ucy;", [1059]),
  ("Udblac;", [368]), ("Ufr;", [120088]), ("Ugrave", [217]), ("Ugrave;", [217]),
  ("Umacr;", [362]), ("UnderBar;", [95]), ("UnderBrace;", [9183]), ("UnderBracket;", [9141]),
  ("UnderParenthesis;", [9181]), ("Union;", [8899]), ("UnionPlus;", [8846]), ("Uogon;", [370]),
  ("Uopf;", [120140]), ("UpArrow;", [8593]), ("UpArrowBar;", [10514]),
  ("UpArrowDownArrow;", [8645]), ("UpDownArrow;", [8597]), ("UpEquilibrium;", [10606]),
  ("UpTee;", [8869]), ("UpTeeArrow;", [8613]), ("Uparrow;", [8657]), ("Updownarrow;", [8661]),
  ("UpperLeftArrow;", [8598]), ("UpperRightArrow;", [8599]), ("Upsi;", [978]),
  ("Upsilon;", [933]), ("Uring;", [366]), ("Uscr;", [119984]), ("Utilde;", [360]),
  ("Uuml", [220]), ("Uuml;", [220]), ("VDash;", [8875]), ("Vbar;", [10987]), ("Vcy;", [1042]),
  ("Vdash;", [8873]), ("Vdashl;", [10982]), ("Vee;", [8897]), ("Verbar;", [8214]),
  ("Vert;", [8214]), ("VerticalBar;", [8739]), ("VerticalLine;", [124]),
  ("VerticalSeparator;", [10072]), ("VerticalTilde;", [8768]), ("VeryThinSpace;", [8202]),
  ("Vfr;", [120089]), ("Vopf;", [120141]), ("Vscr;", [119985]), ("Vvdash;", [8874]),
  ("Wcirc;", [372]), ("Wedge;", [8896]), ("Wfr;", [120090]), ("Wopf;", [120142]),
  ("Wscr;", [119986]), ("Xfr;", [120091]), ("Xi;", [926]), ("Xopf;", [120143]),
  ("Xscr;", [119987]), ("YAcy;", [1071]), ("YIcy;", [1031]), ("YUcy;", [1070]), ("Yacute", [221]),
  ("Yacute;", [221]), ("Ycirc;", [374]), ("Ycy;", [1067]), ("Yfr;", [120092]),
  ("Yopf;", [120144]), ("Yscr;", [119988]), ("Yuml;", [376]), ("ZHcy;", [1046]),
  ("Zacute;", [377]), ("Zcaron;", [381]), ("Zcy;", [1047]), ("Zdot;", [379]),
  ("ZeroWidthSpace;", [8203]), ("Zeta;", [918]), ("Zfr;", [8488]), ("Zopf;", [8484]),
  ("Zscr;", [119989])]

end Almanac.Html.Table
