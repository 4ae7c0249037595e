/-!
# Table: named characters, capital letters A to L

The names of character references that begin with the capital letters A to L, each with the
code points that it stands for. A few names may also be written without the
semicolon and are listed both ways.
-/

namespace Almanac.Html.Table

/-- Named characters that begin with the capital letters A to L. -/
def capitalAToL : List (String × List Nat) := [
  ("AElig", [198]), ("AElig;", [198]), ("AMP", [38]), ("AMP;", [38]), ("Aacute", [193]),
  ("Aacute;", [193]), ("Abreve;", [258]), ("Acirc", [194]), ("Acirc;", [194]), ("Acy;", [1040]),
  ("Afr;", [120068]), ("Agrave", [192]), ("Agrave;", [192]), ("Alpha;", [913]), ("Amacr;", [256]),
  ("And;", [10835]), ("Aogon;", [260]), ("Aopf;", [120120]), ("ApplyFunction;", [8289]),
  ("Aring", [197]), ("Aring;", [197]), ("Ascr;", [119964]), ("Assign;", [8788]),
  ("Atilde", [195]), ("Atilde;", [195]), ("Auml", [196]), ("Auml;", [196]),
  ("Backslash;", [8726]), ("Barv;", [10983]), ("Barwed;", [8966]), ("Bcy;", [1041]),
  ("Because;", [8757]), ("Bernoullis;", [8492]), ("Beta;", [914]), ("Bfr;", [120069]),
  ("Bopf;", [120121]), ("Breve;", [728]), ("Bscr;", [8492]), ("Bumpeq;", [8782]),
  ("CHcy;", [1063]), ("COPY", [169]), ("COPY;", [169]), ("Cacute;", [262]), ("Cap;", [8914]),
  ("CapitalDifferentialD;", [8517]), ("Cayleys;", [8493]), ("Ccaron;", [268]), ("Ccedil", [199]),
  ("Ccedil;", [199]), ("Ccirc;", [264]), ("Cconint;", [8752]), ("Cdot;", [266]),
  ("Cedilla;", [184]), ("CenterDot;", [183]), ("Cfr;", [8493]), ("Chi;", [935]),
  ("CircleDot;", [8857]), ("CircleMinus;", [8854]), ("CirclePlus;", [8853]),
  ("CircleTimes;", [8855]), ("ClockwiseContourIntegral;", [8754]),
  ("CloseCurlyDoubleQuote;", [8221]), ("CloseCurlyQuote;", [8217]), ("Colon;", [8759]),
  ("Colone;", [10868]), ("Congruent;", [8801]), ("Conint;", [8751]), ("ContourIntegral;", [8750]),
  ("Copf;", [8450]), ("Coproduct;", [8720]), ("CounterClockwiseContourIntegral;", [8755]),
  ("Cross;", [10799]), ("Cscr;", [119966]), ("Cup;", [8915]), ("CupCap;", [8781]),
  ("DD;", [8517]), ("DDotrahd;", [10513]), ("DJcy;", [1026]), ("DScy;", [1029]),
  ("DZcy;", [1039]), ("Dagger;", [8225]), ("Darr;", [8609]), ("Dashv;", [10980]),
  ("Dcaron;", [270]), ("Dcy;", [1044]), ("Del;", [8711]), ("Delta;", [916]), ("Dfr;", [120071]),
  ("DiacriticalAcute;", [180]), ("DiacriticalDot;", [729]), ("DiacriticalDoubleAcute;", [733]),
  ("DiacriticalGrave;", [96]), ("DiacriticalTilde;", [732]), ("Diamond;", [8900]),
  ("DifferentialD;", [8518]), ("Dopf;", [120123]), ("Dot;", [168]), ("DotDot;", [8412]),
  ("DotEqual;", [8784]), ("DoubleContourIntegral;", [8751]), ("DoubleDot;", [168]),
  ("DoubleDownArrow;", [8659]), ("DoubleLeftArrow;", [8656]), ("DoubleLeftRightArrow;", [8660]),
  ("DoubleLeftTee;", [10980]), ("DoubleLongLeftArrow;", [10232]),
  ("DoubleLongLeftRightArrow;", [10234]), ("DoubleLongRightArrow;", [10233]),
  ("DoubleRightArrow;", [8658]), ("DoubleRightTee;", [8872]), ("DoubleUpArrow;", [8657]),
  ("DoubleUpDownArrow;", [8661]), ("DoubleVerticalBar;", [8741]), ("DownArrow;", [8595]),
  ("DownArrowBar;", [10515]), ("DownArrowUpArrow;", [8693]), ("DownBreve;", [785]),
  ("DownLeftRightVector;", [10576]), ("DownLeftTeeVector;", [10590]), ("DownLeftVector;", [8637]),
  ("DownLeftVectorBar;", [10582]), ("DownRightTeeVector;", [10591]), ("DownRightVector;", [8641]),
  ("DownRightVectorBar;", [10583]), ("DownTee;", [8868]), ("DownTeeArrow;", [8615]),
  ("Downarrow;", [8659]), ("Dscr;", [119967]), ("Dstrok;", [272]), ("ENG;", [330]),
  ("ETH", [208]), ("ETH;", [208]), ("Eacute", [201]), ("Eacute;", [201]), ("Ecaron;", [282]),
  ("Ecirc", [202]), ("Ecirc;", [202]), ("Ecy;", [1069]), ("Edot;", [278]), ("Efr;", [120072]),
  ("Egrave", [200]), ("Egrave;", [200]), ("Element;", [8712]), ("Emacr;", [274]),
  ("EmptySmallSquare;", [9723]), ("EmptyVerySmallSquare;", [9643]), ("Eogon;", [280]),
  ("Eopf;", [120124]), ("Epsilon;", [917]), ("Equal;", [10869]), ("EqualTilde;", [8770]),
  ("Equilibrium;", [8652]), ("Escr;", [8496]), ("Esim;", [10867]), ("Eta;", [919]),
  ("Euml", [203]), ("Euml;", [203]), ("Exists;", [8707]), ("ExponentialE;", [8519]),
  ("Fcy;", [1060]), ("Ffr;", [120073]), ("FilledSmallSquare;", [9724]),
  ("FilledVerySmallSquare;", [9642]), ("Fopf;", [120125]), ("ForAll;", [8704]),
  ("Fouriertrf;", [8497]), ("Fscr;", [8497]), ("GJcy;", [1027]), ("GT", [62]), ("GT;", [62]),
  ("Gamma;", [915]), ("Gammad;", [988]), ("Gbreve;", [286]), ("Gcedil;", [290]),
  ("Gcirc;", [284]), ("Gcy;", [1043]), ("Gdot;", [288]), ("Gfr;", [120074]), ("Gg;", [8921]),
  ("Gopf;", [120126]), ("GreaterEqual;", [8805]), ("GreaterEqualLess;", [8923]),
  ("GreaterFullEqual;", [8807]), ("GreaterGreater;", [10914]), ("GreaterLess;", [8823]),
  ("GreaterSlantEqual;", [10878]), ("GreaterTilde;", [8819]), ("Gscr;", [119970]),
  ("Gt;", [8811]), ("HARDcy;", [1066]), ("Hacek;", [711]), ("Hat;", [94]), ("Hcirc;", [292]),
  ("Hfr;", [8460]), ("HilbertSpace;", [8459]), ("Hopf;", [8461]), ("HorizontalLine;", [9472]),
  ("Hscr;", [8459]), ("Hstrok;", [294]), ("HumpDownHump;", [8782]), ("HumpEqual;", [8783]),
  ("IEcy;", [1045]), ("IJlig;", [306]), ("IOcy;", [1025]), ("Iacute", [205]), ("Iacute;", [205]),
  ("Icirc", [206]), ("Icirc;", [206]), ("Icy;", [1048]), ("Idot;", [304]), ("Ifr;", [8465]),
  ("Igrave", [204]), ("Igrave;", [204]), ("Im;", [8465]), ("Imacr;", [298]),
  ("ImaginaryI;", [8520]), ("Implies;", [8658]), ("Int;", [8748]), ("Integral;", [8747]),
  ("Intersection;", [8898]), ("InvisibleComma;", [8291]), ("InvisibleTimes;", [8290]),
  ("Iogon;", [302]), ("Iopf;", [120128]), ("Iota;", [921]), ("Iscr;", [8464]), ("Itilde;", [296]),
  ("Iukcy;", [1030]), ("Iuml", [207]), ("Iuml;", [207]), ("Jcirc;", [308]), ("Jcy;", [1049]),
  ("Jfr;", [120077]), ("Jopf;", [120129]), ("Jscr;", [119973]), ("Jsercy;", [1032]),
  ("Jukcy;", [1028]), ("KHcy;", [1061]), ("KJcy;", [1036]), ("Kappa;", [922]), ("Kcedil;", [310]),
  ("Kcy;", [1050]), ("Kfr;", [120078]), ("Kopf;", [120130]), ("Kscr;", [119974]),
  ("LJcy;", [1033]), ("LT", [60]), ("LT;", [60]), ("Lacute;", [313]), ("Lambda;", [923]),
  ("Lang;", [10218]), ("Laplacetrf;", [8466]), ("Larr;", [8606]), ("Lcaron;", [317]),
  ("Lcedil;", [315]), ("Lcy;", [1051]), ("LeftAngleBracket;", [10216]), ("LeftArrow;", [8592]),
  ("LeftArrowBar;", [8676]), ("LeftArrowRightArrow;", [8646]), ("LeftCeiling;", [8968]),
  ("LeftDoubleBracket;", [10214]), ("LeftDownTeeVector;", [10593]), ("LeftDownVector;", [8643]),
  ("LeftDownVectorBar;", [10585]), ("LeftFloor;", [8970]), ("LeftRightArrow;", [8596]),
  ("LeftRightVector;", [10574]), ("LeftTee;", [8867]), ("LeftTeeArrow;", [8612]),
  ("LeftTeeVector;", [10586]), ("LeftTriangle;", [8882]), ("LeftTriangleBar;", [10703]),
  ("LeftTriangleEqual;", [8884]), ("LeftUpDownVector;", [10577]), ("LeftUpTeeVector;", [10592]),
  ("LeftUpVector;", [8639]), ("LeftUpVectorBar;", [10584]), ("LeftVector;", [8636]),
  ("LeftVectorBar;", [10578]), ("Leftarrow;", [8656]), ("Leftrightarrow;", [8660]),
  ("LessEqualGreater;", [8922]), ("LessFullEqual;", [8806]), ("LessGreater;", [8822]),
  ("LessLess;", [10913]), ("LessSlantEqual;", [10877]), ("LessTilde;", [8818]),
  ("Lfr;", [120079]), ("Ll;", [8920]), ("Lleftarrow;", [8666]), ("Lmidot;", [319]),
  ("LongLeftArrow;", [10229]), ("LongLeftRightArrow;", [10231]), ("LongRightArrow;", [10230]),
  ("Longleftarrow;", [10232]), ("Longleftrightarrow;", [10234]), ("Longrightarrow;", [10233]),
  ("Lopf;", [120131]), ("LowerLeftArrow;", [8601]), ("LowerRightArrow;", [8600]),
  ("Lscr;", [8466]), ("Lsh;", [8624]), ("Lstrok;", [321]), ("Lt;", [8810])]

end Almanac.Html.Table
